import InfraTemplate.Proofs.SubstitutionText
import Mathlib.Data.List.Chain
import Mathlib.Data.List.Infix

namespace InfraTemplate

/-- A piece of the text of a substitution. Behind the name of a reference there may be an attribute.
An escape looks like a reference and stands for itself. -/
inductive SubPiece where
  | literal (cs : List Char)
  | reference (name tail : List Char)
  | escape (cs : List Char)

namespace SubPiece

def text : SubPiece → List Char
  | literal cs => cs
  | reference name tail => '$' :: '\x7b' :: (name ++ tail) ++ ['\x7d']
  | escape cs => '$' :: '\x7b' :: '!' :: cs ++ ['\x7d']

def joined (ps : List SubPiece) : String := String.ofList (ps.flatMap text)

def isLiteral : SubPiece → Bool
  | literal _ => true
  | _ => false

def IsName (name : List Char) : Prop :=
  name ≠ [] ∧ name.head? ≠ some '!' ∧ '.' ∉ name ∧ '\x7d' ∉ name

def Fits : SubPiece → Prop
  | literal cs => ¬['$', '\x7b'] <:+: cs
  | reference name tail => IsName name ∧ SubPart.IsAttribute tail
  | escape cs => '$' ∉ cs ∧ '\x7d' ∉ cs

instance (name : List Char) : Decidable (IsName name) :=
  inferInstanceAs (Decidable (name ≠ [] ∧ name.head? ≠ some '!' ∧ '.' ∉ name ∧ '\x7d' ∉ name))

instance : (p : SubPiece) → Decidable p.Fits
  | literal cs => inferInstanceAs (Decidable (¬['$', '\x7b'] <:+: cs))
  | reference name tail => inferInstanceAs (Decidable (IsName name ∧ SubPart.IsAttribute tail))
  | escape cs => inferInstanceAs (Decidable ('$' ∉ cs ∧ '\x7d' ∉ cs))

def Apart (ps : List SubPiece) : Prop :=
  ps.IsChain fun p q => p.isLiteral = false ∨ q.isLiteral = false

structure Fit (ps : List SubPiece) : Prop where
  each : ∀ p ∈ ps, p.Fits
  apart : Apart ps

instance (ps : List SubPiece) : Decidable (Apart ps) :=
  inferInstanceAs (Decidable (ps.IsChain fun p q => p.isLiteral = false ∨ q.isLiteral = false))

instance (ps : List SubPiece) : Decidable (Fit ps) :=
  decidable_of_iff ((∀ p ∈ ps, p.Fits) ∧ Apart ps) ⟨fun h => ⟨h.1, h.2⟩, fun h => ⟨h.1, h.2⟩⟩

def IsKept (naming : NameScope) (bound : List String) (name : List Char) : Prop :=
  String.ofList name ∈ bound ∨ String.ofList name ∈ naming.exempt ∨ "AWS::".toList <+: name

instance (naming : NameScope) (bound : List String) (name : List Char) :
    Decidable (IsKept naming bound name) :=
  inferInstanceAs (Decidable (_ ∨ _ ∨ _))

def inInstance (naming : NameScope) (bound : List String) : SubPiece → SubPiece
  | literal cs => literal cs
  | reference name tail =>
    reference (if IsKept naming bound name then name else naming.lead.toList ++ name) tail
  | escape cs => escape cs

def parts : SubPiece → List SubPart
  | literal cs => cs.map .char
  | reference name tail => [.reference (name ++ tail)]
  | escape cs => (text (escape cs)).map .char

variable {p : SubPiece} {ps : List SubPiece}

theorem Fit.tail (h : Fit (p :: ps)) : Fit ps :=
  ⟨fun q hq => h.each q (List.mem_cons_of_mem _ hq), h.apart.tail⟩

theorem Fit.head?_ne {cs : List Char} (h : Fit (literal cs :: ps)) :
    (ps.flatMap text).head? ≠ some '\x7b' := by
  cases ps with
  | nil => simp
  | cons q ps =>
    cases q with
    | literal ds => simpa [Apart, isLiteral] using h.apart
    | reference name tail => simp [text]
    | escape ds => simp [text]

open SubPart (scan)

theorem scan_escape {cs : List Char} (h : '$' ∉ cs) (rest : List Char) :
    scan (text (escape cs) ++ rest) = parts (escape cs) ++ scan rest := by
  have hfirst : SubPart.opening? ('$' :: ('\x7b' :: '!' :: cs ++ ['\x7d'] ++ rest)) = none := by
    simp [SubPart.opening?]
  -- The inside has no dollar sign, so no reference begins before the end of the escape.
  have hmem : '$' ∉ '\x7b' :: '!' :: cs ++ ['\x7d'] := by simp [h]
  have hinfix : ¬['$', '\x7b'] <:+: '\x7b' :: '!' :: cs ++ ['\x7d'] :=
    fun hi => hmem (hi.subset (List.mem_cons_self ..))
  have hinside : scan ('\x7b' :: '!' :: cs ++ ['\x7d'] ++ rest) =
      ('\x7b' :: '!' :: cs ++ ['\x7d']).map .char ++ scan rest :=
    SubPart.scan_unopened hinfix fun hl => absurd (List.mem_of_getLast? hl) hmem
  exact (SubPart.scan_cons_of_none hfirst).trans (congrArg (SubPart.char '$' :: ·) hinside)

theorem scan_pieces (h : Fit ps) : scan (ps.flatMap text) = ps.flatMap parts := by
  induction ps with
  | nil => rfl
  | cons p ps ih =>
    rw [List.flatMap_cons, List.flatMap_cons, ← ih h.tail]
    have hp := h.each p (List.mem_cons_self ..)
    cases p with
    | literal cs => exact SubPart.scan_unopened hp fun _ => h.head?_ne
    | reference name tail =>
      obtain ⟨⟨hne, hb, -, hc⟩, ht⟩ := hp
      exact SubPart.scan_reference hne hb hc ht _
    | escape cs => exact scan_escape hp.1 _

theorem toList_qualify (naming : NameScope) {bound : List String} {name : List Char}
    (hb : String.ofList name ∉ bound) :
    (naming.qualify (String.ofList name)).toList =
      if IsKept naming bound name then name else naming.lead.toList ++ name := by
  have hname : (String.ofList name).toList = name := String.toList_ofList
  have hkept : IsKept naming bound name ↔
      (isPseudo (String.ofList name) || naming.exempt.contains (String.ofList name)) = true := by
    rw [IsKept, or_iff_right hb, Bool.or_eq_true, isPseudo, Text.hasHead_iff, hname,
      List.contains_iff_mem, or_comm]
  simp only [NameScope.qualify, ← hkept]
  split
  · exact hname
  · rw [String.toList_append, hname]

theorem qualified_parts (naming : NameScope) (bound : List String) (h : p.Fits) :
    (p.parts.flatMap fun part => (part.qualify naming bound).text) =
      (p.inInstance naming bound).text := by
  have hchars (cs : List Char) :
      ((cs.map SubPart.char).flatMap fun part => (part.qualify naming bound).text) = cs := by
    rw [List.flatMap_map]
    exact List.flatMap_singleton' cs
  cases p with
  | literal cs => exact hchars cs
  | escape cs => exact hchars (text (escape cs))
  | reference name tail =>
    obtain ⟨⟨-, -, hd, -⟩, ht⟩ := h
    rw [parts, List.flatMap_singleton, SubPart.qualify_reference naming bound hd ht, inInstance]
    by_cases hb : String.ofList name ∈ bound
    · have hkept : IsKept naming bound name := .inl hb
      rw [if_pos hb, if_pos hkept]
      rfl
    · rw [if_neg hb, toList_qualify naming hb]
      rfl

theorem qualified_pieces (naming : NameScope) (bound : List String) (h : Fit ps) :
    SubPart.qualified naming bound (ps.flatMap text) =
      (ps.map (inInstance naming bound)).flatMap text := by
  rw [SubPart.qualified, scan_pieces h, List.flatMap_assoc, List.flatMap_map]
  exact List.flatMap_congr fun p hp => qualified_parts naming bound (h.each p hp)

end SubPiece

open SubPiece SubPart

/-- An instance writes the text of a substitution with its lead before the free names that the text
refers to. Nothing else in the text changes, and nothing at all outside instances. -/
theorem qualifyText_pieces (naming : NameScope) (bound : List String) {ps : List SubPiece}
    (h : Fit ps) :
    qualifyText (some naming) bound (joined ps) = joined (ps.map (inInstance naming bound)) ∧
      qualifyText none bound (joined ps) = joined ps := by
  have hin : qualifyText (some naming) bound (joined ps) =
      String.ofList (qualified naming bound (ps.flatMap SubPiece.text)) := by
    rw [qualifyText, joined, String.toList_ofList, qualified]
  rw [hin, qualified_pieces naming bound h]
  exact ⟨rfl, rfl⟩

section Example

def webNaming : NameScope := ⟨"Web", ["Shared"]⟩

def bucketPieces : List SubPiece :=
  [.literal "arn:$".toList, .reference "AWS::Partition".toList [], .literal ":$".toList,
    .reference "Bucket".toList ".Arn.Id".toList, .reference "Shared".toList ".Arn".toList,
    .reference "Local".toList [], .reference "Loc".toList [], .escape "Bucket".toList,
    .literal "\x7bBucket\x7d$".toList]

def bucketText : String :=
  "arn:$$\x7bAWS::Partition\x7d:$$\x7bBucket.Arn.Id\x7d$\x7bShared.Arn\x7d" ++
    "$\x7bLocal\x7d$\x7bLoc\x7d$\x7b!Bucket\x7d\x7bBucket\x7d$"

theorem qualifyText_pieces_bucket :
    Fit bucketPieces ∧
    qualifyText (some webNaming) ["Local"] bucketText =
      "arn:$$\x7bAWS::Partition\x7d:$$\x7bWebBucket.Arn.Id\x7d$\x7bShared.Arn\x7d" ++
        "$\x7bLocal\x7d$\x7bWebLoc\x7d$\x7b!Bucket\x7d\x7bBucket\x7d$" ∧
    qualifyText none ["Local"] bucketText = bucketText := by
  have hfit : Fit bucketPieces := by decide +kernel
  have htext : joined bucketPieces = bucketText := by decide +kernel
  have hwritten : joined (bucketPieces.map (inInstance webNaming ["Local"])) =
      "arn:$$\x7bAWS::Partition\x7d:$$\x7bWebBucket.Arn.Id\x7d$\x7bShared.Arn\x7d" ++
        "$\x7bLocal\x7d$\x7bWebLoc\x7d$\x7b!Bucket\x7d\x7bBucket\x7d$" := by decide +kernel
  have h := qualifyText_pieces webNaming ["Local"] hfit
  rw [htext, hwritten] at h
  exact ⟨hfit, h⟩

end Example

end InfraTemplate
