import InfraTemplate.Text.Blank
import InfraTemplate.Text.Hex

namespace InfraTemplate.Url

private def upperHexDigit (n : Nat) : Char :=
  if n < 10 then Char.ofNat (48 + n) else Char.ofNat (55 + n)

def percentByte (b : UInt8) : List Char :=
  ['%', upperHexDigit (b.toNat / 16), upperHexDigit (b.toNat % 16)]

def percentEncode (set : List Char) (cs : List Char) : List Char :=
  cs.flatMap fun c =>
    if c.toNat < 0x20 || 0x7E < c.toNat || set.contains c then
      (String.utf8EncodeChar c).flatMap percentByte
    else [c]

def IsKept (set : List Char) (c : Char) : Prop := 0x20 ≤ c.toNat ∧ c.toNat ≤ 0x7E ∧ c ∉ set

instance (set : List Char) : DecidablePred (IsKept set) := fun c =>
  inferInstanceAs (Decidable (0x20 ≤ c.toNat ∧ c.toNat ≤ 0x7E ∧ c ∉ set))

theorem isKept_iff {set : List Char} {c : Char} : IsKept set c ↔
    (c.toNat < 0x20 || 0x7E < c.toNat || set.contains c) = false := by
  rw [IsKept, Bool.or_eq_false_iff, Bool.or_eq_false_iff, decide_eq_false_iff_not,
    decide_eq_false_iff_not, Nat.not_lt, Nat.not_lt, and_assoc]
  simp

theorem percentEncode_eq_self {set cs : List Char} (h : ∀ c ∈ cs, IsKept set c) :
    percentEncode set cs = cs := by
  induction cs with
  | nil => rfl
  | cons c cs ih =>
    have hc := isKept_iff.mp (h c (List.mem_cons_self ..))
    have hcs : percentEncode set cs = cs := ih fun d hd => h d (List.mem_cons_of_mem _ hd)
    rw [percentEncode, List.flatMap_cons, hc, ← percentEncode, hcs]
    rfl

private theorem percentByte_cases {b : UInt8} {c : Char} (h : c ∈ percentByte b) :
    c = '%' ∨ ∃ n < 16, c = upperHexDigit n := by
  have hb := UInt8.toNat_lt b
  simp only [percentByte, List.mem_cons, List.not_mem_nil, or_false] at h
  rcases h with rfl | rfl | rfl
  · exact .inl rfl
  · exact .inr ⟨_, by omega, rfl⟩
  · exact .inr ⟨_, by omega, rfl⟩

theorem isBlank_of_mem_percentByte {b : UInt8} {c : Char} (h : c ∈ percentByte b) :
    Text.isBlank c = false := by
  have hdigit : ∀ n < 16, Text.isBlank (upperHexDigit n) = false := by decide
  rcases percentByte_cases h with rfl | ⟨n, hn, rfl⟩
  · decide
  · exact hdigit n hn

theorem isBlank_of_mem_percentEncode {set cs : List Char} {c : Char}
    (hspace : ' ' ∈ cs → ' ' ∈ set) (h : c ∈ percentEncode set cs) : Text.isBlank c = false := by
  obtain ⟨d, hd, hc⟩ := List.mem_flatMap.mp h
  split at hc
  · obtain ⟨b, -, hb⟩ := List.mem_flatMap.mp hc
    exact isBlank_of_mem_percentByte hb
  · rename_i hplain
    obtain rfl := List.mem_singleton.mp hc
    simp only [Bool.or_eq_true, decide_eq_true_eq, List.contains_iff_mem, not_or, Nat.not_lt] at hplain
    obtain ⟨⟨hlow, hhigh⟩, hset⟩ := hplain
    refine Text.isBlank_eq_false (Nat.lt_of_le_of_ne hlow fun he => hset ?_) (by omega)
    obtain rfl : c = ' ' := Char.toNat_inj.mp he.symm
    exact hspace hd

def percentDecode : List Char → List UInt8
  | '%' :: a :: b :: rest =>
    match Text.hexValue? a, Text.hexValue? b with
    | some x, some y => UInt8.ofNat (x * 16 + y) :: percentDecode rest
    | _, _ => '%'.toNat.toUInt8 :: percentDecode (a :: b :: rest)
  | c :: rest => String.utf8EncodeChar c ++ percentDecode rest
  | [] => []
termination_by cs => cs.length

def fragmentSet : List Char := [' ', '"', '<', '>', '\x60']

def querySet : List Char := [' ', '"', '#', '<', '>']

def specialQuerySet : List Char := querySet ++ ['\'']

def pathSet : List Char := fragmentSet ++ ['#', '?', '\x7b', '\x7d']

theorem isKept_of_mem_percentEncode {cs : List Char} {c : Char} (h : c ∈ percentEncode pathSet cs) :
    IsKept pathSet c := by
  have hdigit : ∀ n < 16, IsKept pathSet (upperHexDigit n) := by decide
  obtain ⟨d, hd, hc⟩ := List.mem_flatMap.mp h
  split at hc
  · obtain ⟨b, -, hb⟩ := List.mem_flatMap.mp hc
    rcases percentByte_cases hb with rfl | ⟨n, hn, rfl⟩
    · decide
    · exact hdigit n hn
  · rename_i hplain
    rw [List.mem_singleton.mp hc]
    exact isKept_iff.mpr (Bool.eq_false_iff.mpr hplain)

def userinfoSet : List Char := pathSet ++ ['/', ':', ';', '=', '@', '[', '\\', ']', '^', '|']

end InfraTemplate.Url
