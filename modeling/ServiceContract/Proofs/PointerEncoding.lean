import ServiceContract.Proofs.Pointers
import ServiceContract.Proofs.Utf8RoundTrip

/-!
# Names in pointers

A name is written into a pointer in two steps. Tildes and slashes, which pointers use themselves,
become `~0` and `~1`; then each byte of the text that is not unreserved becomes a percent sign with
two hexadecimal digits, in either case. `EncodesName` holds of a name and each of its written forms.

Reading takes the first step back before the second, so the two must not get into each other's way.
They do not: a tilde is unreserved and has no percent form, and the percent forms have no tilde. In
a written name a tilde is followed by `0` or `1` and is one that the first step put there.

Main results:

* `percentDecode_of_encoded`  — percent forms are read back, whatever follows.
* `decodeSegment_of_encoded`  — a segment is read as the name it was written for.
* `encoded_names_referenced`  — every name can be written, and its pointers lead to it alone.
-/

namespace ServiceContract

/-! ## Written forms -/

/-- A character of a name with the pointers' own characters put otherwise. -/
def escapeChar (c : Char) : List Char :=
  if c = '~' then ['~', '0'] else if c = '/' then ['~', '1'] else [c]

/-- A name without slashes, and with tildes only where one stands for something. -/
def escapeName (name : List Char) : List Char := name.flatMap escapeChar

/-- The characters that stand for themselves in a pointer. -/
def isUnreserved (c : Char) : Bool := c.isAlphanum || ['-', '.', '_', '~'].contains c

/-- A hexadecimal digit of the value, in either case. -/
def IsHexDigit (c : Char) (value : Nat) : Prop := c = value.digitChar ∨ c = value.digitChar.toUpper

/-- The text stands for the bytes: each of them for itself, if it is an unreserved character, or as
a percent sign with two hexadecimal digits, if it is not. -/
inductive PercentEncoded : List UInt8 → List Char → Prop
  | nil : PercentEncoded [] []
  | plain {b : UInt8} {bytes : List UInt8} {text : List Char}
      (unreserved : isUnreserved (Char.ofNat b.toNat) = true) (rest : PercentEncoded bytes text) :
      PercentEncoded (b :: bytes) (Char.ofNat b.toNat :: text)
  | encoded {b : UInt8} {bytes : List UInt8} {text : List Char} {high low : Char}
      (reserved : isUnreserved (Char.ofNat b.toNat) = false)
      (high_digit : IsHexDigit high (b.toNat / 16)) (low_digit : IsHexDigit low (b.toNat % 16))
      (rest : PercentEncoded bytes text) : PercentEncoded (b :: bytes) ('%' :: high :: low :: text)

/-- The segment is a written form of the name. -/
def EncodesName (name segment : String) : Prop :=
  PercentEncoded ((escapeName name.toList).flatMap String.utf8EncodeChar) segment.toList

/-- Percent encoding with digits that are written in one way. -/
def percentEncode (digit : Nat → Char) : List UInt8 → List Char
  | [] => []
  | b :: bytes =>
    if isUnreserved (Char.ofNat b.toNat) then Char.ofNat b.toNat :: percentEncode digit bytes
    else '%' :: digit (b.toNat / 16) :: digit (b.toNat % 16) :: percentEncode digit bytes

/-- The name as a segment, with digits that are written in one way. -/
def encodeName (digit : Nat → Char) (name : String) : String :=
  String.ofList (percentEncode digit ((escapeName name.toList).flatMap String.utf8EncodeChar))

/-- Every choice of digits gives a written form. -/
theorem encodesName_encodeName {digit : Nat → Char} (h : ∀ n, IsHexDigit (digit n) n)
    (name : String) : EncodesName name (encodeName digit name) := by
  have hencoded : ∀ bytes, PercentEncoded bytes (percentEncode digit bytes) := by
    intro bytes
    induction bytes with
    | nil => exact .nil
    | cons b bytes ih =>
      rw [percentEncode]
      split
      · next hunreserved => exact .plain hunreserved ih
      · next hreserved => exact .encoded (Bool.eq_false_iff.mpr hreserved) (h _) (h _) ih
  rw [EncodesName, encodeName, String.toList_ofList]
  exact hencoded _

example : encodeName Nat.digitChar "~1/Größe %" = "~01~1Gr%c3%b6%c3%9fe%20%25" := by decide +kernel

/-! ## Bytes and digits -/

/-- What holds of all numbers below 256 holds of all bytes. -/
theorem forall_byte {p : UInt8 → Prop} (h : ∀ n < 256, p (UInt8.ofNat n)) (b : UInt8) : p b := by
  have hb := h b.toNat b.toNat_lt
  rwa [UInt8.ofNat_toNat] at hb

/-- An unreserved character is one byte, and this byte is no percent sign. -/
theorem byte_of_unreserved {b : UInt8} (h : isUnreserved (Char.ofNat b.toNat) = true) :
    String.utf8EncodeChar (Char.ofNat b.toNat) = [b] ∧ b ≠ 0x25 ∧ Char.ofNat b.toNat ≠ '/' := by
  revert h
  exact forall_byte (p := fun b => isUnreserved (Char.ofNat b.toNat) = true →
    String.utf8EncodeChar (Char.ofNat b.toNat) = [b] ∧ b ≠ 0x25 ∧ Char.ofNat b.toNat ≠ '/')
    (by decide +kernel) b

/-- What holds of the digits in lower case and of those in upper case holds of all digits. -/
theorem forall_hexDigit {p : Char → Nat → Prop} (hlower : ∀ n < 16, p n.digitChar n)
    (hupper : ∀ n < 16, p n.digitChar.toUpper n) {c : Char} {value : Nat} (hvalue : value < 16)
    (h : IsHexDigit c value) : p c value := by
  rcases h with rfl | rfl
  · exact hlower value hvalue
  · exact hupper value hvalue

/-- A hexadecimal digit is one byte, is read as its value, and is neither tilde nor slash. -/
theorem byte_of_hexDigit {c : Char} {value : Nat} (hvalue : value < 16) (h : IsHexDigit c value) :
    (∃ b, String.utf8EncodeChar c = [b] ∧ Reference.hexDigit? b = some (UInt8.ofNat value)) ∧
      c ≠ '~' ∧ c ≠ '/' := by
  have hdigit : String.utf8EncodeChar c = [UInt8.ofNat c.toNat] ∧
      Reference.hexDigit? (UInt8.ofNat c.toNat) = some (UInt8.ofNat value) ∧ c ≠ '~' ∧ c ≠ '/' :=
    forall_hexDigit (p := fun d n => String.utf8EncodeChar d = [UInt8.ofNat d.toNat] ∧
        Reference.hexDigit? (UInt8.ofNat d.toNat) = some (UInt8.ofNat n) ∧ d ≠ '~' ∧ d ≠ '/')
      (by decide +kernel) (by decide +kernel) hvalue h
  obtain ⟨hbyte, hread, htilde, hslash⟩ := hdigit
  exact ⟨⟨_, hbyte, hread⟩, htilde, hslash⟩

theorem byte_of_halves (b : UInt8) :
    UInt8.ofNat (b.toNat / 16) * 16 + UInt8.ofNat (b.toNat % 16) = b :=
  forall_byte (p := fun b => UInt8.ofNat (b.toNat / 16) * 16 + UInt8.ofNat (b.toNat % 16) = b)
    (by decide +kernel) b

/-! ## Percent forms -/

namespace PercentEncoded

variable {bytes more : List UInt8} {text : List Char}

/-- What stands for bytes in a row is what stands for the first of them and then for the rest. -/
theorem exists_append (h : PercentEncoded (bytes ++ more) text) :
    ∃ front back, text = front ++ back ∧ PercentEncoded bytes front ∧ PercentEncoded more back := by
  induction bytes generalizing text with
  | nil => exact ⟨[], text, rfl, .nil, h⟩
  | cons b bytes ih =>
    cases h with
    | plain unreserved rest =>
      obtain ⟨front, back, rfl, hfront, hback⟩ := ih rest
      exact ⟨_ :: front, back, rfl, .plain unreserved hfront, hback⟩
    | encoded reserved high_digit low_digit rest =>
      obtain ⟨front, back, rfl, hfront, hback⟩ := ih rest
      exact ⟨_ :: _ :: _ :: front, back, rfl, .encoded reserved high_digit low_digit hfront, hback⟩

/-- Bytes that are unreserved characters are written as they are. -/
theorem eq_of_unreserved (h : PercentEncoded bytes text)
    (hbytes : ∀ b ∈ bytes, isUnreserved (Char.ofNat b.toNat) = true) :
    text = bytes.map fun b => Char.ofNat b.toNat := by
  induction h with
  | nil => rfl
  | plain _ _ ih =>
    rw [List.map_cons, ← ih fun b hb => hbytes b (List.mem_cons_of_mem _ hb)]
  | encoded reserved _ _ _ _ =>
    exact absurd (hbytes _ List.mem_cons_self) (by rw [reserved]; exact Bool.false_ne_true)

/-- Encoded text has no slash, so it stays within its segment. -/
theorem slash_notMem (h : PercentEncoded bytes text) : '/' ∉ text := by
  induction h with
  | nil => exact List.not_mem_nil
  | plain unreserved _ ih =>
    obtain ⟨-, -, hslash⟩ := byte_of_unreserved unreserved
    simp only [List.mem_cons, not_or]
    exact ⟨hslash.symm, ih⟩
  | @encoded b bytes text high low _ high_digit low_digit _ ih =>
    have hb : b.toNat < 256 := b.toNat_lt
    -- three characters stand for the byte: the percent sign and its two digits
    obtain ⟨-, -, hhigh⟩ := byte_of_hexDigit (by omega) high_digit
    obtain ⟨-, -, hlow⟩ := byte_of_hexDigit (by omega) low_digit
    simp only [List.mem_cons, not_or]
    exact ⟨by decide, hhigh.symm, hlow.symm, ih⟩

/-- There is a tilde only where a byte is one. -/
theorem tilde_notMem (h : PercentEncoded bytes text) (hbytes : 0x7e ∉ bytes) : '~' ∉ text := by
  induction h with
  | nil => exact List.not_mem_nil
  | @plain b bytes text unreserved _ ih =>
    rw [List.mem_cons, not_or] at hbytes ⊢
    refine ⟨fun htilde => hbytes.1 ?_, ih hbytes.2⟩
    -- the character has one byte, which is then that of a tilde
    obtain ⟨hbyte, -⟩ := byte_of_unreserved unreserved
    rw [← htilde] at hbyte
    exact List.singleton_inj.mp hbyte
  | @encoded b bytes text high low _ high_digit low_digit _ ih =>
    have hb : b.toNat < 256 := b.toNat_lt
    obtain ⟨-, hhigh, -⟩ := byte_of_hexDigit (by omega) high_digit
    obtain ⟨-, hlow, -⟩ := byte_of_hexDigit (by omega) low_digit
    simp only [List.mem_cons, not_or] at hbytes ⊢
    exact ⟨by decide, hhigh.symm, hlow.symm, ih hbytes.2⟩

end PercentEncoded

/-- A byte that is no percent sign is passed. -/
theorem percentDecode_cons {b : UInt8} (h : b ≠ 0x25) (rest : List UInt8) :
    Reference.percentDecode (b :: rest) = b :: Reference.percentDecode rest := by
  rcases rest with - | ⟨high, - | ⟨low, rest⟩⟩
  · rfl
  · rfl
  · rw [Reference.percentDecode, if_neg h]

/-- Percent forms are read back, whatever follows. -/
theorem percentDecode_of_encoded {bytes : List UInt8} {text : List Char}
    (h : PercentEncoded bytes text) (rest : List UInt8) :
    Reference.percentDecode (text.flatMap String.utf8EncodeChar ++ rest) =
      bytes ++ Reference.percentDecode rest := by
  induction h with
  | nil => rfl
  | plain unreserved _ ih =>
    obtain ⟨hbyte, hpercent, -⟩ := byte_of_unreserved unreserved
    rw [List.flatMap_cons, hbyte, List.singleton_append, List.cons_append,
      percentDecode_cons hpercent, ih, List.cons_append]
  -- a percent sign and its two digits are three bytes, read back as one
  | @encoded b bytes text high low _ high_digit low_digit _ ih =>
    have hb : b.toNat < 256 := b.toNat_lt
    obtain ⟨⟨first, hfirst, hhigh⟩, -⟩ := byte_of_hexDigit (by omega) high_digit
    obtain ⟨⟨second, hsecond, hlow⟩, -⟩ := byte_of_hexDigit (by omega) low_digit
    have hpercent : String.utf8EncodeChar '%' = [0x25] := by decide
    rw [List.flatMap_cons, List.flatMap_cons, List.flatMap_cons, hpercent, hfirst, hsecond]
    simp only [List.cons_append, List.nil_append, Reference.percentDecode, if_true, hhigh, hlow,
      byte_of_halves, ih]

/-! ## Tildes -/

/-- The first step of writing taken back: `~1` is a slash, and then `~0` a tilde. -/
def unescape (text : List Char) : List Char :=
  Reference.replacePair '~' '0' '~' (Reference.replacePair '~' '1' '/' text)

/-- Pairs are looked for behind the characters that start none. -/
theorem replacePair_append {first second target : Char} {text : List Char} (h : first ∉ text)
    (rest : List Char) :
    Reference.replacePair first second target (text ++ rest) =
      text ++ Reference.replacePair first second target rest := by
  induction text with
  | nil => rfl
  | cons c text ih =>
    rw [List.mem_cons, not_or] at h
    have hskip : ∀ tail, Reference.replacePair first second target (c :: tail) =
        c :: Reference.replacePair first second target tail := by
      intro tail
      cases tail with
      | nil => rfl
      | cons d tail => rw [Reference.replacePair, if_neg fun hpair => h.1 hpair.1.symm]
    rw [List.cons_append, hskip, ih h.2, List.cons_append]

theorem unescape_append {text : List Char} (h : '~' ∉ text) (rest : List Char) :
    unescape (text ++ rest) = text ++ unescape rest := by
  rw [unescape, replacePair_append h, replacePair_append h, unescape]

/-- An escaped tilde is read back as one. What follows is read on its own, so `~01` gives a tilde
and a one. -/
theorem unescape_tilde (rest : List Char) :
    unescape ('~' :: '0' :: rest) = '~' :: unescape rest := by
  have hpass : Reference.replacePair '~' '1' '/' ('~' :: '0' :: rest) =
      '~' :: '0' :: Reference.replacePair '~' '1' '/' rest := by
    have hzero : '~' ∉ ['0'] := by decide
    rw [Reference.replacePair, if_neg (by decide)]
    exact congrArg _ (replacePair_append hzero rest)
  rw [unescape, hpass, Reference.replacePair, if_pos (by decide), unescape]

theorem unescape_slash (rest : List Char) :
    unescape ('~' :: '1' :: rest) = '/' :: unescape rest := by
  have hslash : '~' ∉ ['/'] := by decide
  rw [unescape, Reference.replacePair, if_pos (by decide)]
  exact replacePair_append hslash _

/-! ## Names -/

/-- What is left of a written name by the first step back stands for the bytes of the name. -/
theorem percentDecode_unescape {name text : List Char}
    (h : PercentEncoded ((escapeName name).flatMap String.utf8EncodeChar) text) :
    Reference.percentDecode ((unescape text).flatMap String.utf8EncodeChar) =
      name.flatMap String.utf8EncodeChar := by
  induction name generalizing text with
  | nil => cases h; rfl
  | cons c name ih =>
    rw [escapeName, List.flatMap_cons, List.flatMap_append] at h
    obtain ⟨front, back, rfl, hfront, hback⟩ := h.exists_append
    have hback := ih hback
    rw [List.flatMap_cons, ← hback]
    by_cases htilde : c = '~'
    · subst htilde
      have hspelled : front = ['~', '0'] := hfront.eq_of_unreserved (by decide +kernel)
      rw [hspelled, List.cons_append, List.cons_append, List.nil_append, unescape_tilde,
        List.flatMap_cons]
      exact percentDecode_cons (by decide) _
    · by_cases hslash : c = '/'
      · subst hslash
        have hspelled : front = ['~', '1'] := hfront.eq_of_unreserved (by decide +kernel)
        rw [hspelled, List.cons_append, List.cons_append, List.nil_append, unescape_slash,
          List.flatMap_cons]
        exact percentDecode_cons (by decide) _
      · -- any other character has its bytes in percent form, among them no tilde
        rw [escapeChar, if_neg htilde, if_neg hslash, List.flatMap_singleton] at hfront
        have hbyte : 0x7e ∉ String.utf8EncodeChar c :=
          fun hmem => htilde (Text.eq_ofNat_of_mem_utf8EncodeChar hmem (by decide))
        rw [unescape_append (hfront.tilde_notMem hbyte), List.flatMap_append,
          percentDecode_of_encoded hfront]

/-- A segment is read as the name it was written for. -/
theorem decodeSegment_of_encoded {name segment : String} (h : EncodesName name segment) :
    Reference.decodeSegment segment.toList = name := by
  have hread : Reference.decodeSegment segment.toList = String.ofList (Text.decodeLossy
      (Reference.percentDecode ((unescape segment.toList).flatMap String.utf8EncodeChar))) := rfl
  rw [hread, percentDecode_unescape h, Text.decodeLossy_utf8, String.ofList_toList]

/-- A pointer that ends in a written form of a name leads to the name. -/
theorem ofPointer?_of_encoded {head part front name segment : String} (hhead : '/' ∉ head.toList)
    (hpart : '/' ∉ part.toList) (hfront : head ++ "/" ++ part ++ "/" = front)
    (h : EncodesName name segment) :
    Reference.ofPointer? (front ++ segment) =
      some ⟨(Segments.reference ⟨head, part, segment⟩).category, name⟩ := by
  have hslash : '/' ∉ segment.toList := h.slash_notMem
  have hname : Segments.target ⟨head, part, segment⟩ = name := decodeSegment_of_encoded h
  refine ofPointer?_eq_some_iff.mpr ⟨⟨head, part, segment⟩, ⟨hhead, hpart, hslash⟩, ?_, ?_⟩
  · rw [Segments.pointer, hfront]
  · rw [Segments.reference, hname]

/-- An encoded name leads to the definition of that name. -/
theorem ofPointer?_definition {name segment : String} (h : EncodesName name segment) :
    Reference.ofPointer? ("#/definitions/" ++ segment) = some ⟨.definition, name⟩ := by
  have hhead : '/' ∉ "#".toList := by decide
  have hpart : '/' ∉ "definitions".toList := by decide
  have hfront : "#" ++ "/" ++ "definitions" ++ "/" = "#/definitions/" := by decide
  rw [ofPointer?_of_encoded hhead hpart hfront h, Segments.reference, if_pos rfl]

/-- In the section of parameters an encoded name leads to the shared parameter of that name. -/
theorem ofPointer?_parameter {name segment : String} (h : EncodesName name segment) :
    Reference.ofPointer? ("#/parameters/" ++ segment) = some ⟨.parameter, name⟩ := by
  have hhead : '/' ∉ "#".toList := by decide
  have hpart : '/' ∉ "parameters".toList := by decide
  have hfront : "#" ++ "/" ++ "parameters" ++ "/" = "#/parameters/" := by decide
  have hother : ¬ "parameters" = "definitions" := by decide
  rw [ofPointer?_of_encoded hhead hpart hfront h, Segments.reference, if_neg hother, if_pos rfl]

/-- What the written forms of a name are good for. -/
structure Referable (name : String) : Prop where
  /-- There are written forms, with digits of either case. -/
  lower : EncodesName name (encodeName Nat.digitChar name)
  upper : EncodesName name (encodeName (fun n => n.digitChar.toUpper) name)
  /-- A pointer with any of them leads to the name. -/
  definition : ∀ segment, EncodesName name segment →
    Reference.ofPointer? ("#/definitions/" ++ segment) = some ⟨.definition, name⟩
  parameter : ∀ segment, EncodesName name segment →
    Reference.ofPointer? ("#/parameters/" ++ segment) = some ⟨.parameter, name⟩
  /-- What carries the pointer reaches the definition of this name if the document has it. -/
  reached : ∀ (document : Document) (segment : String), EncodesName name segment →
    (document.PointsTo (some ("#/definitions/" ++ segment)) name ↔ document.defines name = true)
  /-- A parameter that carries it and states no type is typed as the shared parameter of this name
  is. -/
  shared : ∀ (ctx : Context) (scope segment : String) (p target : Parameter),
    EncodesName name segment → p.inlineType = none →
      p.pointer = some ("#/parameters/" ++ segment) →
        ctx.document.sharedParameter? name = some target →
          (resolveParameter ctx scope p).value.map ParameterEntry.type =
            (resolveSharedType ctx scope name target).value
  /-- No other name has any of them. -/
  distinct : ∀ segment other, EncodesName name segment → EncodesName other segment → other = name

/-- Every name can be written into pointers, in forms that lead to it alone. Nothing is asked of the
name: it may be empty, hold slashes, tildes and percent signs, or be no ASCII text. The forms are
percent-encoded with digits of either case, and a pointer with any of them leads to the definition
or the shared parameter of just this name. -/
theorem encoded_names_referenced (name : String) : Referable name where
  lower := encodesName_encodeName (fun _ => Or.inl rfl) name
  upper := encodesName_encodeName (fun _ => Or.inr rfl) name
  definition _ h := ofPointer?_definition h
  parameter _ h := ofPointer?_parameter h
  reached document segment h := by
    rw [Document.PointsTo, Option.bind_some, ofPointer?_definition h]
    exact and_iff_right rfl
  shared ctx scope segment p target h huntyped hcarries hfound := by
    have hresolved : resolveParameter ctx scope p = resolveShared ctx scope p name := by
      simp only [resolveParameter, huntyped, hcarries, ofPointer?_parameter h]
    rw [hresolved]
    simp only [resolveShared, hfound, Report.value_bind, Report.value_pure, Option.map_map]
    exact Option.map_id'
  distinct segment other h hother := by
    rw [← decodeSegment_of_encoded h, decodeSegment_of_encoded hother]

end ServiceContract
