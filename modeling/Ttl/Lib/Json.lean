import Ttl.Lib.Text

/-!
# Records in JSON

Objects whose values are null, a Boolean, a natural number or a text, in the compact form: no blank between the tokens,
and in a text only the escapes that have to be there. `readRecord` reads such objects and nothing else, and
`readRecord_text` is the round trip.
-/

namespace Json

open Text

/-- A value that is neither an array nor an object. -/
inductive Scalar where
  | null
  | bool (b : Bool)
  | num (n : ℕ)
  | str (s : List Char)
deriving DecidableEq

/-- An object, by its members in their order. -/
abbrev Record := List (List Char × Scalar)

/-! ## Printing -/

/-- One character of a text. Control characters without an escape of their own are written by number. -/
def escapeChar (c : Char) : List Char :=
  if c = '"' then "\\\"".toList
  else if c = '\x5C' then "\\\\".toList
  else if c.toNat = 0x08 then "\\b".toList
  else if c.toNat = 0x09 then "\\t".toList
  else if c.toNat = 0x0A then "\\n".toList
  else if c.toNat = 0x0C then "\\f".toList
  else if c.toNat = 0x0D then "\\r".toList
  else if c.toNat < 0x20 then "\\u00".toList ++ [(c.toNat / 16).digitChar, (c.toNat % 16).digitChar]
  else [c]

/-- A text with its quotes. -/
def strText (s : List Char) : List Char := '"' :: (s.flatMap escapeChar ++ ['"'])

/-- A value. -/
def Scalar.text : Scalar → List Char
  | .null => "null".toList
  | .bool true => "true".toList
  | .bool false => "false".toList
  | .num n => nat n
  | .str s => strText s

/-- A member. -/
def memberText (m : List Char × Scalar) : List Char := strText m.1 ++ ':' :: m.2.text

/-- An object. -/
def recordText (r : Record) : List Char := '{' :: (List.intercalate [','] (r.map memberText) ++ ['}'])

/-! ## Reading -/

/-- The character of an escape that is a single letter. -/
def unescape (c : Char) : Option Char :=
  if c = '"' then some '"'
  else if c = '\x5C' then some '\x5C'
  else if c = '/' then some '/'
  else if c = 'b' then some '\x08'
  else if c = 't' then some '\t'
  else if c = 'n' then some '\n'
  else if c = 'f' then some '\x0C'
  else if c = 'r' then some '\r'
  else none

/-- The digits of an escape by number, which is that of a character. -/
def readCode (digits : List Char) : Option Char :=
  let code := ofHexChars digits
  if (digits.all fun c => c.isDigit || ('a' ≤ c && c ≤ 'f')) && code.isValidChar then some (Char.ofNat code) else none

/-- What is left of a text, up to its quote. -/
def readStr : List Char → Option (List Char × List Char)
  | [] => none
  | '"' :: rest => some ([], rest)
  | '\x5C' :: 'u' :: a :: b :: c :: d :: rest =>
    (readCode [a, b, c, d]).bind fun x => (readStr rest).map fun r => (x :: r.1, r.2)
  | '\x5C' :: c :: rest => (unescape c).bind fun x => (readStr rest).map fun r => (x :: r.1, r.2)
  | c :: rest => if c.toNat < 0x20 then none else (readStr rest).map fun r => (c :: r.1, r.2)

/-- A number, without needless zeros. -/
def readNat (text : List Char) : Option (ℕ × List Char) :=
  let digits := text.takeWhile Char.isDigit
  let n := Nat.ofDigitChars 10 digits 0
  if nat n = digits then some (n, text.dropWhile Char.isDigit) else none

/-- A value. -/
def readScalar : List Char → Option (Scalar × List Char)
  | 'n' :: 'u' :: 'l' :: 'l' :: rest => some (.null, rest)
  | 't' :: 'r' :: 'u' :: 'e' :: rest => some (.bool true, rest)
  | 'f' :: 'a' :: 'l' :: 's' :: 'e' :: rest => some (.bool false, rest)
  | '"' :: rest => (readStr rest).map fun r => (.str r.1, r.2)
  | text => (readNat text).map fun r => (.num r.1, r.2)

/-- A member. -/
def readMember : List Char → Option ((List Char × Scalar) × List Char)
  | '"' :: text =>
    match readStr text with
    | some (name, ':' :: rest) => (readScalar rest).map fun r => ((name, r.1), r.2)
    | _ => none
  | _ => none

/-- The members of an object up to its brace, at most as many as the fuel. -/
def readMembers : ℕ → List Char → Option Record
  | 0, _ => none
  | fuel + 1, text =>
    match readMember text with
    | some (m, ['}']) => some [m]
    | some (m, ',' :: rest) => (readMembers fuel rest).map fun r => m :: r
    | _ => none

/-- A line that is an object. -/
def readRecord : List Char → Option Record
  | ['{', '}'] => some []
  | '{' :: text => readMembers text.length text
  | _ => none

example : readRecord "\x7b\"a\":\"x\\u0001\\\"\",\"b\":12\x7d".toList =
    some [(['a'], .str ['x', '\x01', '"']), (['b'], .num 12)] := by decide +kernel

/-! ## The round trip -/

/-- A character without an escape ends no text. -/
theorem readStr_plain {c : Char} (hquote : c ≠ '"') (hslash : c ≠ '\x5C') (hcontrol : ¬ c.toNat < 0x20)
    (rest : List Char) : readStr (c :: rest) = (readStr rest).map fun r => (c :: r.1, r.2) := by
  rw [readStr, if_neg hcontrol]
  · exact hquote
  · exact fun _ _ _ _ _ h => absurd h hslash
  · exact fun _ _ h => absurd h hslash

/-- The escape of a control character by its number. -/
theorem readCode_control : ∀ n < 0x20,
    readCode ['0', '0', (n / 16).digitChar, (n % 16).digitChar] = some (Char.ofNat n) := by
  decide

/-- An escaped character reads back as that character. -/
theorem readStr_escapeChar (c : Char) (rest : List Char) :
    readStr (escapeChar c ++ rest) = (readStr rest).map fun r => (c :: r.1, r.2) := by
  have hchar : ∀ n, c.toNat = n → c = Char.ofNat n := fun n h => by rw [← h, Char.ofNat_toNat]
  by_cases hquote : c = '"'
  · subst hquote
    rfl
  by_cases hslash : c = '\x5C'
  · subst hslash
    rfl
  rw [escapeChar, if_neg hquote, if_neg hslash]
  split_ifs with hback htab hfeed hform hreturn hcontrol
  · rw [hchar _ hback]
    rfl
  · rw [hchar _ htab]
    rfl
  · rw [hchar _ hfeed]
    rfl
  · rw [hchar _ hform]
    rfl
  · rw [hchar _ hreturn]
    rfl
  · have hcode := readCode_control c.toNat hcontrol
    rw [Char.ofNat_toNat] at hcode
    have hread : readStr ("\\u00".toList ++ [(c.toNat / 16).digitChar, (c.toNat % 16).digitChar] ++ rest) =
        (readCode ['0', '0', (c.toNat / 16).digitChar, (c.toNat % 16).digitChar]).bind fun x =>
          (readStr rest).map fun r => (x :: r.1, r.2) := rfl
    rw [hread, hcode, Option.bind_some]
  · exact readStr_plain hquote hslash hcontrol rest

/-- The text of a string reads back, up to its closing quote. -/
theorem readStr_text (s rest : List Char) : readStr (s.flatMap escapeChar ++ '"' :: rest) = some (s, rest) := by
  induction s with
  | nil => rfl
  | cons c s ih =>
    rw [List.flatMap_cons, List.append_assoc, readStr_escapeChar, ih]
    rfl

/-- A number reads back, up to what is no digit. -/
theorem readNat_text (n : ℕ) {c : Char} (hc : c.isDigit = false) (rest : List Char) :
    readNat (nat n ++ c :: rest) = some (n, c :: rest) := by
  have hdigits : ∀ d ∈ nat n, d.isDigit := fun d hd => isDigit_of_mem_nat hd
  have hstop : ¬ c.isDigit = true := by rw [hc]; exact Bool.false_ne_true
  have htake : (nat n ++ c :: rest).takeWhile Char.isDigit = nat n := by
    rw [List.takeWhile_append_of_pos hdigits, List.takeWhile_cons_of_neg hstop, List.append_nil]
  have hdrop : (nat n ++ c :: rest).dropWhile Char.isDigit = c :: rest := by
    rw [List.dropWhile_append_of_pos hdigits, List.dropWhile_cons_of_neg hstop]
  rw [readNat, htake, hdrop, ofDigitChars_nat, if_pos rfl]

/-- A value is read up to what follows it. -/
theorem readScalar_text (v : Scalar) {c : Char} (hc : c.isDigit = false) (rest : List Char) :
    readScalar (v.text ++ c :: rest) = some (v, c :: rest) := by
  cases v with
  | null => rfl
  | bool b => cases b <;> rfl
  | str s =>
    have hread : readScalar ((Scalar.str s).text ++ c :: rest) =
        (readStr (s.flatMap escapeChar ++ '"' :: c :: rest)).map fun r => (.str r.1, r.2) := by
      rw [Scalar.text, strText, List.cons_append, List.append_assoc]
      rfl
    rw [hread, readStr_text]
    rfl
  | num n =>
    obtain ⟨d, digits, hn⟩ := List.exists_cons_of_ne_nil (nat_ne_nil n)
    have hd : d.isDigit := isDigit_of_mem_nat (by rw [hn]; exact List.mem_cons_self)
    have hread : readScalar (nat n ++ c :: rest) = (readNat (nat n ++ c :: rest)).map fun r => (.num r.1, r.2) := by
      have hother : ∀ e tail, e.isDigit = false → d :: (digits ++ c :: rest) ≠ e :: tail := by
        intro e tail he h
        rw [(List.cons.inj h).1, he] at hd
        cases hd
      rw [hn, List.cons_append, readScalar]
      · exact fun _ h => hother 'n' _ rfl h
      · exact fun _ h => hother 't' _ rfl h
      · exact fun _ h => hother 'f' _ rfl h
      · exact fun _ h => hother '"' _ rfl h
    rw [Scalar.text, hread, readNat_text n hc rest]
    rfl

/-- A member reads back, up to what is no digit. -/
theorem readMember_text (m : List Char × Scalar) {c : Char} (hc : c.isDigit = false) (rest : List Char) :
    readMember (memberText m ++ c :: rest) = some (m, c :: rest) := by
  obtain ⟨name, v⟩ := m
  have hread : readStr (name.flatMap escapeChar ++ '"' :: ':' :: (v.text ++ c :: rest)) =
      some (name, ':' :: (v.text ++ c :: rest)) := readStr_text name _
  have htext : memberText (name, v) ++ c :: rest =
      '"' :: (name.flatMap escapeChar ++ '"' :: ':' :: (v.text ++ c :: rest)) := by
    simp [memberText, strText]
  rw [htext, readMember, hread]
  exact congrArg (Option.map fun r => ((name, r.1), r.2)) (readScalar_text v hc rest)

/-- The members of a record, up to its brace. -/
def membersText (r : Record) : List Char := List.intercalate [','] (r.map memberText) ++ ['\x7D']

/-- The last member is followed by the closing brace. -/
theorem membersText_singleton (m : List Char × Scalar) : membersText [m] = memberText m ++ ['\x7D'] := by
  rw [membersText, List.map_singleton, List.intercalate_singleton]

/-- A member is parted from those behind it by a comma. -/
theorem membersText_cons (m : List Char × Scalar) {r : Record} (h : r ≠ []) :
    membersText (m :: r) = memberText m ++ ',' :: membersText r := by
  cases r with
  | nil => exact absurd rfl h
  | cons next r =>
    rw [membersText, membersText, List.map_cons, List.map_cons, List.intercalate_cons_cons, List.append_assoc,
      List.append_assoc, List.singleton_append]

/-- The members of a record read back. -/
theorem readMembers_text {r : Record} (hne : r ≠ []) {fuel : ℕ} (hfuel : r.length ≤ fuel) :
    readMembers fuel (membersText r) = some r := by
  induction r generalizing fuel with
  | nil => exact absurd rfl hne
  | cons m r ih =>
    cases fuel with
    | zero => exact absurd hfuel (Nat.not_succ_le_zero _)
    | succ fuel =>
      by_cases hlast : r = []
      · rw [hlast, membersText_singleton, readMembers, readMember_text m rfl]
        rfl
      · rw [membersText_cons m hlast, readMembers, readMember_text m rfl]
        exact congrArg (Option.map fun r => m :: r) (ih hlast (Nat.le_of_succ_le_succ hfuel))

/-- There are fewer members than characters. -/
theorem length_le_membersText (r : Record) : r.length ≤ (membersText r).length := by
  induction r with
  | nil => exact Nat.zero_le _
  | cons m r ih =>
    by_cases hlast : r = []
    · rw [hlast, membersText_singleton, List.length_append]
      exact Nat.le_add_left 1 _
    · rw [membersText_cons m hlast, List.length_append, List.length_cons, List.length_cons]
      omega

/-- **The round trip.** What is printed is read. -/
theorem readRecord_text (r : Record) : readRecord (recordText r) = some r := by
  by_cases hempty : r = []
  · rw [hempty]
    rfl
  · have htext : recordText r = '\x7B' :: membersText r := rfl
    have hne : membersText r ≠ ['\x7D'] := by
      obtain ⟨m, r', rfl⟩ := List.exists_cons_of_ne_nil hempty
      have hlength : 1 < (membersText (m :: r')).length := by
        by_cases hlast : r' = []
        · rw [hlast, membersText_singleton, List.length_append, memberText, List.length_append, List.length_cons]
          simp only [List.length_cons, List.length_nil]
          omega
        · rw [membersText_cons m hlast, List.length_append, memberText, List.length_append, List.length_cons,
            List.length_cons]
          omega
      intro h
      rw [h] at hlength
      exact absurd hlength (lt_irrefl 1)
    rw [htext, readRecord]
    · exact readMembers_text hempty (length_le_membersText r)
    · exact fun h => hne h

/-! ## Lines -/

/-- An escaped character has no line feed. -/
theorem feed_notMem_escapeChar (c : Char) : '\n' ∉ escapeChar c := by
  unfold escapeChar
  split_ifs with hquote hslash hback htab hfeed hform hreturn hcontrol
  all_goals try decide
  · have hdigits : ∀ n < 0x20, '\n' ∉ "\\u00".toList ++ [(n / 16).digitChar, (n % 16).digitChar] := by decide
    exact hdigits _ hcontrol
  · rintro h
    rw [← List.mem_singleton.mp h] at hfeed
    exact hfeed rfl

/-- The text of a string has no line feed. -/
theorem feed_notMem_strText (s : List Char) : '\n' ∉ strText s := by
  unfold strText
  simp only [List.mem_cons, List.mem_append, List.mem_flatMap, List.not_mem_nil, or_false, not_or]
  refine ⟨by decide, ?_, by decide⟩
  rintro ⟨c, -, hc⟩
  exact feed_notMem_escapeChar c hc

/-- The text of a value has no line feed. -/
theorem feed_notMem_scalar (v : Scalar) : '\n' ∉ v.text := by
  cases v with
  | null => decide
  | bool b => cases b <;> decide
  | num n => exact fun h => absurd (isDigit_of_mem_nat h) (by decide)
  | str s => exact feed_notMem_strText s

/-- An object is a line of its own. -/
theorem feed_notMem_record (r : Record) : '\n' ∉ recordText r := by
  unfold recordText
  simp only [List.mem_cons, List.mem_append, List.not_mem_nil, or_false, not_or]
  refine ⟨by decide, ?_, by decide⟩
  intro h
  rcases mem_intercalate h with hsep | ⟨part, hpart, hc⟩
  · exact absurd hsep (by decide)
  · obtain ⟨m, -, rfl⟩ := List.mem_map.mp hpart
    unfold memberText at hc
    simp only [List.mem_append, List.mem_cons] at hc
    rcases hc with hname | hcolon | hvalue
    · exact feed_notMem_strText _ hname
    · exact absurd hcolon (by decide)
    · exact feed_notMem_scalar _ hvalue

end Json
