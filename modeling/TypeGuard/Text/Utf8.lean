namespace TypeGuard.Utf8

def byteLength : List Char → Nat
  | [] => 0
  | c :: cs => c.utf8Size + byteLength cs

@[simp] theorem byteLength_nil : byteLength [] = 0 := rfl

@[simp] theorem byteLength_cons (c : Char) (cs : List Char) :
    byteLength (c :: cs) = c.utf8Size + byteLength cs := rfl

theorem byteLength_append (cs ds : List Char) :
    byteLength (cs ++ ds) = byteLength cs + byteLength ds := by
  induction cs with
  | nil => simp
  | cons c cs ih => simp [ih, Nat.add_assoc]

def encode (cs : List Char) : List UInt8 :=
  cs.flatMap String.utf8EncodeChar

@[simp] theorem encode_nil : encode [] = [] := rfl

@[simp] theorem encode_cons (c : Char) (cs : List Char) :
    encode (c :: cs) = String.utf8EncodeChar c ++ encode cs := rfl

theorem encode_append (cs ds : List Char) : encode (cs ++ ds) = encode cs ++ encode ds := by
  simp [encode]

def ofString (s : String) : List UInt8 :=
  encode s.toList

theorem ofString_append (s t : String) : ofString (s ++ t) = ofString s ++ ofString t := by
  rw [ofString, String.toList_append, encode_append, ofString, ofString]

def payload? (b : UInt8) : Option Nat :=
  if 0x80 ≤ b && b < 0xC0 then some (b.toNat - 0x80) else none

/-- A code point written with more bytes than it needs, a surrogate and a number past the last
code point are no character. -/
def scalar? (least n : Nat) : Option Char :=
  if h : n.isValidChar then if least ≤ n then some (Char.ofNatAux n h) else none else none

/-- Reads a text. The result is `none` as soon as one byte does not belong to a character. -/
def decode? : List UInt8 → Option (List Char)
  | [] => some []
  | b :: bs =>
    if b < 0x80 then do
      let c ← scalar? 0 b.toNat
      return c :: (← decode? bs)
    else match bs with
      | [] => none
      | b₁ :: bs =>
        if b < 0xE0 then do
          if b < 0xC0 then failure
          let p₁ ← payload? b₁
          let c ← scalar? 0x80 ((b.toNat - 0xC0) * 0x40 + p₁)
          return c :: (← decode? bs)
        else match bs with
          | [] => none
          | b₂ :: bs =>
            if b < 0xF0 then do
              let p₁ ← payload? b₁
              let p₂ ← payload? b₂
              let c ← scalar? 0x800 (((b.toNat - 0xE0) * 0x40 + p₁) * 0x40 + p₂)
              return c :: (← decode? bs)
            else match bs with
              | [] => none
              | b₃ :: bs => do
                if 0xF8 ≤ b then failure
                let p₁ ← payload? b₁
                let p₂ ← payload? b₂
                let p₃ ← payload? b₃
                let c ← scalar? 0x10000
                  ((((b.toNat - 0xF0) * 0x40 + p₁) * 0x40 + p₂) * 0x40 + p₃)
                return c :: (← decode? bs)

/-- A byte list that is the encoding of some text. -/
def Valid (bytes : List UInt8) : Prop :=
  ∃ cs, encode cs = bytes

end TypeGuard.Utf8
