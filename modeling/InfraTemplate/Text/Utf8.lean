namespace InfraTemplate.Text

def replacement : Char := Char.ofNat 0xFFFD

private def continues (b : UInt8) : Bool := 0x80 ≤ b && b ≤ 0xBF

private def secondOfThree (b₀ b₁ : UInt8) : Bool :=
  (if b₀ == 0xE0 then 0xA0 else 0x80) ≤ b₁ && b₁ ≤ (if b₀ == 0xED then 0x9F else 0xBF)

private def secondOfFour (b₀ b₁ : UInt8) : Bool :=
  (if b₀ == 0xF0 then 0x90 else 0x80) ≤ b₁ && b₁ ≤ (if b₀ == 0xF4 then 0x8F else 0xBF)

private def low (b : UInt8) : Nat := b.toNat % 64

/-- Reads UTF-8, each longest piece of an ill-formed sequence becoming one U+FFFD. -/
def decodeLossy : List UInt8 → List Char
  | [] => []
  | b₀ :: r₁ =>
    if b₀ < 0x80 then Char.ofNat b₀.toNat :: decodeLossy r₁
    else if 0xC2 ≤ b₀ && b₀ ≤ 0xDF then
      match r₁ with
      | b₁ :: r₂ =>
        if continues b₁ then Char.ofNat ((b₀.toNat - 0xC0) * 64 + low b₁) :: decodeLossy r₂
        else replacement :: decodeLossy (b₁ :: r₂)
      | [] => [replacement]
    else if 0xE0 ≤ b₀ && b₀ ≤ 0xEF then
      match r₁ with
      | b₁ :: r₂ =>
        if secondOfThree b₀ b₁ then
          match r₂ with
          | b₂ :: r₃ =>
            if continues b₂ then
              Char.ofNat ((b₀.toNat - 0xE0) * 4096 + low b₁ * 64 + low b₂) :: decodeLossy r₃
            else replacement :: decodeLossy (b₂ :: r₃)
          | [] => [replacement]
        else replacement :: decodeLossy (b₁ :: r₂)
      | [] => [replacement]
    else if 0xF0 ≤ b₀ && b₀ ≤ 0xF4 then
      match r₁ with
      | b₁ :: r₂ =>
        if secondOfFour b₀ b₁ then
          match r₂ with
          | b₂ :: r₃ =>
            if continues b₂ then
              match r₃ with
              | b₃ :: r₄ =>
                if continues b₃ then
                  Char.ofNat
                    ((b₀.toNat - 0xF0) * 262144 + low b₁ * 4096 + low b₂ * 64 + low b₃) ::
                      decodeLossy r₄
                else replacement :: decodeLossy (b₃ :: r₄)
              | [] => [replacement]
            else replacement :: decodeLossy (b₂ :: r₃)
          | [] => [replacement]
        else replacement :: decodeLossy (b₁ :: r₂)
      | [] => [replacement]
    else replacement :: decodeLossy r₁

def lossyText (raw : ByteArray) : String := String.ofList (decodeLossy raw.toList)

end InfraTemplate.Text
