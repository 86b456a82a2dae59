namespace InfraTemplate.Url.Punycode

def digit (d : Nat) : Char := if d < 26 then Char.ofNat (97 + d) else Char.ofNat (22 + d)

def threshold (k bias : Nat) : Nat := min 26 (max 1 (k - bias))

def shrink (delta k : Nat) : Nat × Nat :=
  if 455 < delta then shrink (delta / 35) (k + 36) else (delta, k)
termination_by delta

def adapt (delta count : Nat) (first : Bool) : Nat :=
  let halved := if first then delta / 700 else delta / 2
  let (rest, k) := shrink (halved + halved / count) 0
  k + 36 * rest / (rest + 38)

def digits (bias k q : Nat) : List Char :=
  let t := threshold k bias
  if q < t then [digit q]
  else digit (t + (q - t) % (36 - t)) :: digits bias (k + 36) ((q - t) / (36 - t))
termination_by q
decreasing_by
  have : 1 ≤ threshold k bias := by simp only [threshold]; omega
  have := Nat.div_le_self (q - threshold k bias) (36 - threshold k bias)
  omega

structure State where
  delta : Nat
  bias : Nat
  done : Nat
  out : List Char

def step (basic n : Nat) (s : State) (c : Char) : State :=
  if c.toNat < n then { s with delta := s.delta + 1 }
  else if c.toNat = n then
    { delta := 0, bias := adapt s.delta (s.done + 1) (s.done == basic), done := s.done + 1,
      out := s.out ++ digits s.bias 36 s.delta }
  else s

def encode (cs : List Char) : List Char :=
  let basic := cs.filter fun c => c.toNat < 128
  let others := ((cs.filter fun c => 128 ≤ c.toNat).map Char.toNat).mergeSort.eraseDups
  let start : State := ⟨0, 72, basic.length, if basic.isEmpty then [] else basic ++ ['-']⟩
  let (s, _) := others.foldl
    (fun (s, previous) n =>
      let s := { s with delta := s.delta + (n - previous) * (s.done + 1) }
      let s := cs.foldl (step basic.length n) s
      ({ s with delta := s.delta + 1 }, n + 1))
    (start, 128)
  s.out

end InfraTemplate.Url.Punycode
