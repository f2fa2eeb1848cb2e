/-!
# Bytes read as text

A byte sequence need not be text. `decodeLossy` reads it as UTF-8 and puts U+FFFD in the place of
each longest run that starts a character but does not finish it; `decode?` refuses such a sequence.
-/

namespace ServiceContract.Text

/-- The UTF-8 bytes of a text. -/
def utf8 (s : String) : List UInt8 :=
  s.toList.flatMap String.utf8EncodeChar

/-- The number of UTF-8 bytes of characters. -/
def byteLength (cs : List Char) : Nat :=
  cs.foldl (fun n c => n + c.utf8Size) 0

/-- What stands in for bytes that are no text. -/
def replacement : Char := '\ufffd'

/-- Whether `b` can follow a lead byte in any position. -/
def isContinuation (b : UInt8) : Bool :=
  0x80 ≤ b.toNat && b.toNat < 0xc0

/-- The number of bytes that follow the lead byte `b`; none for a byte that leads nothing. -/
def followers (b : UInt8) : Nat :=
  if 0xc2 ≤ b.toNat && b.toNat < 0xe0 then 1
  else if 0xe0 ≤ b.toNat && b.toNat < 0xf0 then 2
  else if 0xf0 ≤ b.toNat && b.toNat < 0xf5 then 3
  else 0

/-- Whether `second` can follow the lead byte `lead`: no overlong form, no surrogate and nothing
beyond the last code point. -/
def canFollow (lead second : UInt8) : Bool :=
  isContinuation second &&
    (if lead.toNat = 0xe0 then 0xa0 ≤ second.toNat
     else if lead.toNat = 0xed then second.toNat < 0xa0
     else if lead.toNat = 0xf0 then 0x90 ≤ second.toNat
     else if lead.toNat = 0xf4 then second.toNat < 0x90
     else true)

/-- The six payload bits of a continuation byte. -/
def payload (b : UInt8) : Nat := b.toNat - 0x80

/-- The character that starts at `lead` and the number of bytes it takes after that one. For bytes
that are no character the answer is `none` with the length of the run to replace. -/
def decodeChar (lead : UInt8) (rest : List UInt8) : Option Char × Nat :=
  if lead.toNat < 0x80 then (some (Char.ofNat lead.toNat), 0)
  else
    -- the first byte that does not fit starts the next run
    match followers lead, rest with
    | 1, b :: _ =>
      if canFollow lead b then (some (Char.ofNat ((lead.toNat - 0xc0) * 64 + payload b)), 1)
      else (none, 0)
    | 2, b :: tail =>
      if canFollow lead b then
        match tail with
        | c :: _ =>
          if isContinuation c then
            (some (Char.ofNat (((lead.toNat - 0xe0) * 64 + payload b) * 64 + payload c)), 2)
          else (none, 1)
        | [] => (none, 1)
      else (none, 0)
    | 3, b :: tail =>
      if canFollow lead b then
        match tail with
        | c :: tail =>
          if isContinuation c then
            match tail with
            | d :: _ =>
              if isContinuation d then
                (some (Char.ofNat
                  ((((lead.toNat - 0xf0) * 64 + payload b) * 64 + payload c) * 64 + payload d)), 3)
              else (none, 2)
            | [] => (none, 2)
          else (none, 1)
        | [] => (none, 1)
      else (none, 0)
    | _, _ => (none, 0)

/-- The bytes as characters, each unreadable run replaced by one U+FFFD. -/
def decodeLossy : List UInt8 → List Char
  | [] => []
  | lead :: rest =>
    let (c, used) := decodeChar lead rest
    c.getD replacement :: decodeLossy (rest.drop used)
  termination_by bytes => bytes.length
  decreasing_by simp only [List.length_cons, List.length_drop]; omega

/-- The bytes as characters, if all of them are text. -/
def decode? : List UInt8 → Option (List Char)
  | [] => some []
  | lead :: rest =>
    match decodeChar lead rest with
    | (some c, used) => (decode? (rest.drop used)).map (c :: ·)
    | (none, _) => none
  termination_by bytes => bytes.length
  decreasing_by simp only [List.length_cons, List.length_drop]; omega

end ServiceContract.Text
