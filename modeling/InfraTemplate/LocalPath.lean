import InfraTemplate.Text.Blank

namespace InfraTemplate.LocalPath

def isAbsolute (path : String) : Bool := path.toList.head? == some '/'

private def isStep (first : Bool) (part : List Char) : Bool :=
  !part.isEmpty && (part != ['.'] || first)

private def dropIdle (parts : List (List Char × Bool)) : List (List Char × Bool) :=
  (parts.reverse.dropWhile fun p => !p.2).reverse

def directory? (path : String) : Option String :=
  let parts := (Text.splitAll (· == '/') path.toList).zipIdx.map fun (part, i) =>
    (part, isStep (i == 0) part)
  let front := dropIdle (dropIdle parts).dropLast
  if (dropIdle parts).isEmpty then none
  else if front.isEmpty then if isAbsolute path then some "/" else none
  else some (String.ofList (['/'].intercalate (front.map (·.1))))

section Steps

private def marked (parts : List (List Char)) : List (List Char × Bool) :=
  parts.zipIdx.map fun (part, i) => (part, isStep (i == 0) part)

def steps (path : String) : List (List Char) :=
  ((marked (Text.splitAll (· == '/') path.toList)).filter (·.2)).map (·.1)

def IsParent (dir path : String) : Prop :=
  dir.toList <+: path.toList ∧ ∃ last, steps path = steps dir ++ [last]

private theorem marked_fst (parts : List (List Char)) : (marked parts).map (·.1) = parts := by
  rw [marked, List.map_map]
  exact List.zipIdx_map_fst 0 parts

private theorem marked_of_append {parts : List (List Char)} {front back : List (List Char × Bool)}
    (h : marked parts = front ++ back) : marked (front.map (·.1)) = front := by
  have hparts : parts = front.map (·.1) ++ back.map (·.1) := by
    rw [← List.map_append, ← h, marked_fst]
  rw [marked, hparts, List.zipIdx_append, List.map_append] at h
  refine (List.append_inj h ?_).1
  rw [List.length_map, List.length_zipIdx, List.length_map]

private theorem dropIdle_append (parts : List (List Char × Bool)) :
    ∃ idle, parts = dropIdle parts ++ idle ∧ idle.filter (·.2) = [] := by
  refine ⟨(parts.reverse.takeWhile fun p => !p.2).reverse, ?_, ?_⟩
  · rw [dropIdle, ← List.reverse_append, List.takeWhile_append_dropWhile, List.reverse_reverse]
  · refine List.filter_eq_nil_iff.mpr fun p hp => ?_
    have hidle := List.all_eq_true.mp List.all_takeWhile p (List.mem_reverse.mp hp)
    simpa using hidle

private theorem getLast_dropIdle {parts front : List (List Char × Bool)} {p : List Char × Bool}
    (h : dropIdle parts = front ++ [p]) : p.2 = true := by
  have hrev : parts.reverse.dropWhile (fun p => !p.2) = p :: front.reverse := by
    rw [← List.reverse_reverse (parts.reverse.dropWhile _)]
    rw [dropIdle] at h
    rw [h, List.reverse_append]
    rfl
  have hhead := List.head?_dropWhile_not (fun p : List Char × Bool => !p.2) parts.reverse
  rw [hrev] at hhead
  simpa using hhead

private theorem last_step {parts : List (List Char × Bool)} (h : dropIdle parts ≠ []) :
    ∃ last rest, parts = dropIdle (dropIdle parts).dropLast ++ rest ∧
      rest.filter (·.2) = [last] := by
  obtain ⟨idle, hparts, hidle⟩ := dropIdle_append parts
  obtain ⟨idle', hfront, hidle'⟩ := dropIdle_append (dropIdle parts).dropLast
  have hlast := List.dropLast_concat_getLast h
  have hmark := getLast_dropIdle hlast.symm
  refine ⟨(dropIdle parts).getLast h, idle' ++ ([(dropIdle parts).getLast h] ++ idle), ?_, ?_⟩
  · rw [← List.append_assoc, ← hfront, ← List.append_assoc, hlast]
    exact hparts
  · simp [hidle, hidle', hmark]

private theorem directory?_cases (path : String) :
    directory? path = none ∧ steps path = [] ∨
      ∃ front rest last, marked (Text.splitAll (· == '/') path.toList) = front ++ rest ∧
        rest.filter (·.2) = [last] ∧
        directory? path = if front.isEmpty then if isAbsolute path then some "/" else none
          else some (String.ofList (['/'].intercalate (front.map (·.1)))) := by
  generalize hp : Text.splitAll (· == '/') path.toList = pieces
  have hdir : directory? path = if (dropIdle (marked pieces)).isEmpty then none
      else if (dropIdle (dropIdle (marked pieces)).dropLast).isEmpty then
        if isAbsolute path then some "/" else none
      else some (String.ofList (['/'].intercalate
        ((dropIdle (dropIdle (marked pieces)).dropLast).map (·.1)))) := by
    rw [← hp]
    rfl
  by_cases hempty : dropIdle (marked pieces) = []
  · obtain ⟨idle, hparts, hidle⟩ := dropIdle_append (marked pieces)
    rw [hempty, List.nil_append] at hparts
    refine .inl ⟨by rw [hdir, hempty]; rfl, ?_⟩
    rw [steps, hp, hparts, hidle]
    rfl
  · obtain ⟨last, rest, hparts, hrest⟩ := last_step hempty
    refine .inr ⟨_, rest, last, hparts, hrest, ?_⟩
    rw [hdir, if_neg (mt List.isEmpty_iff.mp hempty)]

private theorem steps_of_append {path : String} {front rest : List (List Char × Bool)}
    {last : List Char × Bool}
    (h : marked (Text.splitAll (· == '/') path.toList) = front ++ rest)
    (hrest : rest.filter (·.2) = [last]) :
    steps path = (front.filter (·.2)).map (·.1) ++ [last.1] := by
  rw [steps, h, List.filter_append, hrest, List.map_append]
  rfl

theorem isParent_of_directory? {path dir : String} (h : directory? path = some dir) :
    IsParent dir path := by
  obtain ⟨hnone, -⟩ | ⟨front, rest, last, hparts, hrest, hdir⟩ := directory?_cases path
  · rw [hnone] at h
    cases h
  have hsteps := steps_of_append hparts hrest
  rw [hdir] at h
  by_cases hfront : front = []
  · rw [if_pos (List.isEmpty_iff.mpr hfront)] at h
    split at h
    · rename_i habs
      cases h
      obtain ⟨tail, htail⟩ := List.head?_eq_some_iff.mp (beq_iff_eq.mp habs)
      rw [hfront] at hsteps
      exact ⟨⟨tail, htail.symm⟩, last.1, hsteps⟩
    · cases h
  · rw [if_neg (mt List.isEmpty_iff.mp hfront)] at h
    cases h
    have hpieces : Text.splitAll (· == '/') path.toList = front.map (·.1) ++ rest.map (·.1) := by
      rw [← List.map_append, ← hparts, marked_fst]
    have hnames : front.map (·.1) ≠ [] := mt List.map_eq_nil_iff.mp hfront
    have hafter : rest.map (·.1) ≠ [] := by
      intro he
      rw [List.map_eq_nil_iff.mp he] at hrest
      cases hrest
    constructor
    · rw [String.toList_ofList, ← Text.intercalate_splitAll '/' path.toList, hpieces,
        Text.intercalate_append hnames hafter]
      exact List.prefix_append _ _
    · have hsplit : Text.splitAll (· == '/') (['/'].intercalate (front.map (·.1))) =
          front.map (·.1) := by
        refine Text.splitAll_intercalate hnames fun w hw hc => ?_
        have hmem : w ∈ Text.splitAll (· == '/') path.toList := by
          rw [hpieces]
          exact List.mem_append_left _ hw
        exact Bool.noConfusion (Text.of_mem_splitAll hmem hc)
      refine ⟨last.1, ?_⟩
      rw [hsteps, steps, String.toList_ofList, hsplit, marked_of_append hparts]

end Steps

def join (dir? : Option String) (path : String) : String :=
  match dir? with
  | some dir =>
    if isAbsolute path then path
    else if dir.toList.getLast? == some '/' then dir ++ path
    else dir ++ "/" ++ path
  | none => path

theorem join_of_absolute {path : String} (h : isAbsolute path = true) (dir? : Option String) :
    join dir? path = path := by
  cases dir? with
  | none => rfl
  | some dir =>
    show (if isAbsolute path then path else _) = path
    rw [if_pos h]

theorem join_of_relative {path : String} (h : isAbsolute path = false) (dir : String) :
    join (some dir) path =
      dir ++ (if dir.toList.getLast? = some '/' then "" else "/") ++ path := by
  simp only [join, h, Bool.false_eq_true, ↓reduceIte, beq_iff_eq]
  split
  · rw [String.append_empty]
  · rfl

end InfraTemplate.LocalPath
