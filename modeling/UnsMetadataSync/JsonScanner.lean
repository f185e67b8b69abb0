import UnsMetadataSync.Json
import Mathlib.Data.Nat.Digits

/-!
# Reading JSON text

`json.loads` as CPython's C scanner (`_json.c`) runs it.  Whitespace is blank, tab, newline and
carriage return.  A value is a string, an object, an array, one of the named constants `null`,
`true`, `false`, `NaN`, `Infinity` and `-Infinity`, or a number.  An object keeps the last value of
a repeated key at the key's first position, as a dict does.  Any `JSONDecodeError` is `none`: the
modelled code only catches it.

A string may not hold a raw control character (`strict=True`).  A `\uXXXX` escape of a high
surrogate followed by one of a low surrogate is one character.  A surrogate escape that is not part
of such a pair gives Python a lone surrogate, which a Lean `Char` cannot be; it is read as U+FFFD
here.  A float is kept as its literal (`nan`, `inf` and `-inf` for the named constants), not as
`float.__repr__` gives it: the modelled code only drops floats.  The limit of 4300 digits on
integer conversion and the recursion limit on nesting raise errors other than `JSONDecodeError`;
neither is modelled.

Text written with `ensure_ascii=True` reads back: a string written by `quoteAscii` gives the
string (`scanString_quoteAscii`), and an integer's text gives the integer (`scanValue_toString`).
-/

namespace UnsMetadataSync.JsonScanner

open Json

/-! ## The scanner -/

/-- `IS_WHITESPACE`. -/
def isWhitespace (c : Char) : Bool := c = ' ' || c = '\t' || c = '\n' || c = '\r'

/-- The text after the whitespace at its front. -/
def skipWs : List Char → List Char
  | c :: cs => if isWhitespace c then skipWs cs else c :: cs
  | [] => []

/-- The value of a hexadecimal digit of either case. -/
def hexValue (c : Char) : Option Nat :=
  if '0' ≤ c ∧ c ≤ '9' then some (c.toNat - '0'.toNat)
  else if 'a' ≤ c ∧ c ≤ 'f' then some (c.toNat - 'a'.toNat + 10)
  else if 'A' ≤ c ∧ c ≤ 'F' then some (c.toNat - 'A'.toNat + 10)
  else none

/-- The value of hexadecimal digits, each shifting the value so far by four bits. -/
def hexDigitsValue (cs : List Char) : Option Nat :=
  cs.foldlM (fun acc c ↦ (hexValue c).map (16 * acc + ·)) 0

/-- The character of a one-letter escape. -/
def shortEscape : Char → Option Char
  | '"' => some '"'
  | '\\' => some '\\'
  | '/' => some '/'
  | 'b' => some (Char.ofNat 8)
  | 'f' => some (Char.ofNat 12)
  | 'n' => some '\n'
  | 'r' => some '\r'
  | 't' => some '\t'
  | _ => none

/-- What a surrogate escape outside a pair is read as. -/
def loneSurrogate : Char := Char.ofNat 0xFFFD

def isHighSurrogate (n : Nat) : Bool := 0xD800 ≤ n && n < 0xDC00

def isLowSurrogate (n : Nat) : Bool := 0xDC00 ≤ n && n < 0xE000

/-- The character of a `\uXXXX` escape that neither starts nor ends a pair. -/
def escapedChar (n : Nat) : Char :=
  if 0xD800 ≤ n ∧ n < 0xE000 then loneSurrogate else Char.ofNat n

/-- The character of a high and a low surrogate. -/
def joinSurrogates (high low : Nat) : Char := Char.ofNat (0x10000 + (high - 0xD800) * 0x400 + (low - 0xDC00))

/-- The characters read so far, with a high surrogate still waiting for its pair written out
alone. -/
def flushPending (pending : Option Nat) (acc : List Char) : List Char :=
  if pending.isSome then loneSurrogate :: acc else acc

/-- `scanstring_unicode` after the opening quote: the string and the text after the closing
quote.  `acc` holds the characters read so far, reversed; `pending` a high surrogate just read,
which the next `\uXXXX` escape joins when it is a low surrogate. -/
def scanString (pending : Option Nat) (acc : List Char) : List Char → Option (String × List Char)
  | [] => none
  | '"' :: rest => some (String.mk (flushPending pending acc).reverse, rest)
  | '\\' :: 'u' :: a :: b :: c :: d :: rest =>
    match hexDigitsValue [a, b, c, d], pending with
    | none, _ => none
    | some n, some high =>
      if isLowSurrogate n then scanString none (joinSurrogates high n :: acc) rest
      else if isHighSurrogate n then scanString (some n) (loneSurrogate :: acc) rest
      else scanString none (escapedChar n :: loneSurrogate :: acc) rest
    | some n, none =>
      if isHighSurrogate n then scanString (some n) acc rest
      else scanString none (escapedChar n :: acc) rest
  | '\\' :: 'u' :: _ => none
  | '\\' :: e :: rest => (shortEscape e).bind fun c ↦ scanString none (c :: flushPending pending acc) rest
  | ['\\'] => none
  | c :: rest => if c.toNat < 0x20 then none else scanString none (c :: flushPending pending acc) rest

/-- The value of decimal digits. -/
def digitsValue (ds : List Char) : Nat :=
  ds.foldl (fun n d ↦ 10 * n + (d.toNat - '0'.toNat)) 0

/-- The exponent of a number, `e` or `E`, a sign and at least one digit, and the text after it;
none, and no text read, without a digit. -/
def scanExponent : List Char → List Char × List Char
  | e :: more =>
    if e = 'e' ∨ e = 'E' then
      let (sign, digits) := match more with
        | s :: ds => if s = '+' ∨ s = '-' then ([s], ds) else ([], s :: ds)
        | [] => ([], [])
      if (digits.takeWhile Char.isDigit).isEmpty then ([], e :: more)
      else (e :: sign ++ digits.takeWhile Char.isDigit, digits.dropWhile Char.isDigit)
    else ([], e :: more)
  | [] => ([], [])

/-- The fraction of a number, a point and at least one digit, and the text after it. -/
def scanFraction : List Char → List Char × List Char
  | '.' :: d :: more =>
    if d.isDigit then ('.' :: d :: more.takeWhile Char.isDigit, more.dropWhile Char.isDigit)
    else ([], '.' :: d :: more)
  | cs => ([], cs)

/-- The integer part of a number: `0`, or digits from `1` to `9` on. -/
def scanIntPart : List Char → Option (List Char × List Char)
  | '0' :: rest => some (['0'], rest)
  | c :: rest =>
    if '1' ≤ c ∧ c ≤ '9' then some (c :: rest.takeWhile Char.isDigit, rest.dropWhile Char.isDigit)
    else none
  | [] => none

/-- `_match_number_unicode`: an integer, or a float when a fraction or an exponent follows. -/
def scanNumber (cs : List Char) : Option (JsonValue × List Char) :=
  let (negative, afterSign) := match cs with
    | '-' :: rest => (true, rest)
    | rest => (false, rest)
  (scanIntPart afterSign).map fun (digits, rest) ↦
    let (frac, rest) := scanFraction rest
    let (exp, rest) := scanExponent rest
    if frac.isEmpty && exp.isEmpty then
      (.int (if negative then -(digitsValue digits : Int) else digitsValue digits), rest)
    else (.float (String.mk ((if negative then ['-'] else []) ++ digits ++ frac ++ exp)), rest)

/-- The named constants and their values. -/
def constants : List (String × JsonValue) :=
  [("null", .null), ("true", .bool true), ("false", .bool false), ("NaN", .float "nan"),
    ("Infinity", .float "inf"), ("-Infinity", .float "-inf")]

/-- A named constant at the front of the text. -/
def scanConstant (cs : List Char) : Option (JsonValue × List Char) :=
  (constants.find? fun constant ↦ constant.1.data.isPrefixOf cs).map fun (text, value) ↦
    (value, cs.drop text.length)

mutual

/-- `scan_once_unicode`.  `fuel` bounds the calls; each call reads at least one character, so the
length of the text and one more is enough. -/
def scanValue : Nat → List Char → Option (JsonValue × List Char)
  | 0, _ => none
  | _ + 1, [] => none
  | fuel + 1, c :: rest =>
    if c = '"' then (scanString none [] rest).map fun (s, rest) ↦ (.str s, rest)
    else if c = '\x7b' then
      match skipWs rest with
      | '\x7d' :: rest => some (.obj [], rest)
      | rest => scanMembers fuel [] rest
    else if c = '[' then
      match skipWs rest with
      | ']' :: rest => some (.arr [], rest)
      | rest => scanElements fuel [] rest
    else (scanConstant (c :: rest)).orElse fun _ ↦ scanNumber (c :: rest)

/-- `_parse_object_unicode` from a key on, with the members read so far. -/
def scanMembers : Nat → List (String × JsonValue) → List Char → Option (JsonValue × List Char)
  | 0, _, _ => none
  | fuel + 1, members, '"' :: rest =>
    match scanString none [] rest with
    | none => none
    | some (key, rest) =>
      match skipWs rest with
      | ':' :: rest =>
        match scanValue fuel (skipWs rest) with
        | none => none
        | some (value, rest) =>
          match skipWs rest with
          | '\x7d' :: rest => some (.obj (setItem members key value), rest)
          | ',' :: rest => scanMembers fuel (setItem members key value) (skipWs rest)
          | _ => none
      | _ => none
  | _ + 1, _, _ => none

/-- `_parse_array_unicode` from a value on, with the items read so far. -/
def scanElements : Nat → List JsonValue → List Char → Option (JsonValue × List Char)
  | 0, _, _ => none
  | fuel + 1, items, cs =>
    match scanValue fuel cs with
    | none => none
    | some (value, rest) =>
      match skipWs rest with
      | ']' :: rest => some (.arr (items ++ [value]), rest)
      | ',' :: rest => scanElements fuel (items ++ [value]) (skipWs rest)
      | _ => none

end

/-- `json.loads`: none for a `JSONDecodeError`, which a text starting with a byte order mark, a
value the scanner refuses and text after the value all raise. -/
def loads (s : String) : Option JsonValue :=
  if s.toList.head? = some (Char.ofNat 0xFEFF) then none
  else
    match scanValue (s.length + 1) (skipWs s.toList) with
    | some (value, rest) => if skipWs rest = [] then some value else none
    | none => none

/-! ## Digits

`Nat.toDigitsCore` writes the digits of a number most significant first, the first not `0`
unless the number is; reading them back, each digit shifting the value so far, gives the
number.  Read with any function that gives each digit character its value. -/

section Digits

variable {b : Nat} (hb : 1 < b) (val : Char → Nat) (hval : ∀ d < b, val (Nat.digitChar d) = d)
include hb hval

theorem toDigitsCore_spec (fuel n : Nat) (ds : List Char) (hn : n < fuel) :
    ∃ digits, Nat.toDigitsCore b fuel n ds = digits ++ ds ∧ digits ≠ [] ∧
      (∀ c ∈ digits, ∃ d < b, c = Nat.digitChar d) ∧ digits.foldl (fun acc c ↦ b * acc + val c) 0 = n ∧
      (0 < n → ∃ d, 0 < d ∧ d < b ∧ digits.head? = some (Nat.digitChar d)) := by
  induction fuel generalizing n ds with
  | zero => omega
  | succ fuel ih =>
    have hmod : n % b < b := Nat.mod_lt _ (by omega)
    simp only [Nat.toDigitsCore]
    split_ifs with hq
    · have hlt : n < b := (Nat.div_eq_zero_iff (by omega)).1 hq
      refine ⟨[Nat.digitChar (n % b)], rfl, List.cons_ne_nil _ _, ?_, ?_, fun hpos ↦ ?_⟩
      · simpa using ⟨n % b, hmod, rfl⟩
      · simp [Nat.mod_eq_of_lt hlt, hval _ hlt]
      · exact ⟨n % b, by rw [Nat.mod_eq_of_lt hlt]; exact hpos, hmod, rfl⟩
    · have hpos : 0 < n / b := Nat.pos_of_ne_zero hq
      obtain ⟨digits, hdigits, hne, hall, hvalue, hhead⟩ :=
        ih (n / b) (Nat.digitChar (n % b) :: ds) (by
          have := Nat.div_lt_self (Nat.pos_of_ne_zero fun h ↦ hq (h ▸ Nat.zero_div b)) hb
          omega)
      refine ⟨digits ++ [Nat.digitChar (n % b)], by simp [hdigits], by simp, ?_, ?_, fun _ ↦ ?_⟩
      · intro c hc
        rcases List.mem_append.1 hc with hc | hc
        · exact hall c hc
        · exact ⟨n % b, hmod, List.mem_singleton.1 hc⟩
      · rw [List.foldl_append, hvalue]
        simp [hval _ hmod, Nat.div_add_mod]
      · obtain ⟨d, hd0, hdb, hd⟩ := hhead hpos
        exact ⟨d, hd0, hdb, by rw [List.head?_append, hd]; rfl⟩

end Digits

theorem hexValue_digitChar : ∀ d < 16, hexValue (Nat.digitChar d) = some d := by decide

/-- Hexadecimal digits with their values read one by one. -/
theorem hexDigitsValue_eq {digits : List Char} (hall : ∀ c ∈ digits, ∃ d < 16, c = Nat.digitChar d)
    (acc : Nat) :
    digits.foldlM (fun acc c ↦ (hexValue c).map (16 * acc + ·)) acc =
      some (digits.foldl (fun acc c ↦ 16 * acc + (hexValue c).getD 0) acc) := by
  induction digits generalizing acc with
  | nil => rfl
  | cons c digits ih =>
    obtain ⟨d, hd, rfl⟩ := hall c (List.mem_cons_self _ _)
    simp only [List.foldlM_cons, List.foldl_cons, hexValue_digitChar d hd, Option.map_some', Option.getD_some]
    exact ih (fun c hc ↦ hall c (List.mem_cons_of_mem _ hc)) _

/-- `hexDigits 4 n`, for `n` below `0x10000`, is four hexadecimal digits whose value is `n`. -/
theorem hexDigits_four {n : Nat} (hn : n < 0x10000) :
    ∃ a b c d, (hexDigits 4 n).data = [a, b, c, d] ∧ hexDigitsValue [a, b, c, d] = some n := by
  obtain ⟨digits, hdigits, -, hall, hvalue, -⟩ :=
    toDigitsCore_spec (by decide : 1 < 16) (fun c ↦ (hexValue c).getD 0)
      (fun d hd ↦ by simp [hexValue_digitChar d hd]) (n + 1) n [] (Nat.lt_succ_self n)
  rw [List.append_nil] at hdigits
  have hlen : digits.length ≤ 4 := by
    rw [← hdigits]
    exact Nat.toDigitsCore_length 16 (by decide) (n + 1) n 4 hn (by decide)
  have hpadded : (hexDigits 4 n).data = List.replicate (4 - digits.length) '0' ++ digits := by
    simp only [hexDigits, Nat.toDigits, hdigits]
  have hzeros : ∀ k, (List.replicate k '0').foldlM (fun acc c ↦ (hexValue c).map (16 * acc + ·)) 0 = some 0 := by
    intro k
    induction k with
    | zero => rfl
    | succ k ih => simpa [List.replicate_succ, hexValue] using ih
  have hread : hexDigitsValue (hexDigits 4 n).data = some n := by
    rw [hpadded, hexDigitsValue, List.foldlM_append, hzeros]
    simp only [Option.bind_eq_bind, Option.some_bind, hexDigitsValue_eq hall, hvalue]
  have hfour : (hexDigits 4 n).data.length = 4 := by
    rw [hpadded, List.length_append, List.length_replicate]
    omega
  match h : (hexDigits 4 n).data, hfour with
  | [a, b, c, d], _ => exact ⟨a, b, c, d, rfl, h ▸ hread⟩

/-! ## Strings written with `ensure_ascii=True` -/

/-- The code points of characters: below the surrogates, or above them and below `0x110000`. -/
theorem toNat_valid (c : Char) : c.toNat < 0xD800 ∨ (0xDFFF < c.toNat ∧ c.toNat < 0x110000) := by
  simpa [UInt32.isValidChar, Nat.isValidChar] using c.valid

/-- A character that neither quotes nor escapes is read as itself, unless it is a control
character. -/
theorem scanString_plain (pending : Option Nat) (acc rest : List Char) {c : Char} (hq : c ≠ '"')
    (hb : c ≠ '\\') :
    scanString pending acc (c :: rest) =
      if c.toNat < 0x20 then none else scanString none (c :: flushPending pending acc) rest :=
  scanString.eq_9 pending acc c rest hq (fun _ _ _ _ _ h _ ↦ hb h) (fun _ h _ ↦ hb h) (fun _ _ h _ ↦ hb h)
    (fun h _ ↦ hb h)

/-- A two-character escape is read as the character it stands for. -/
theorem scanString_shortEscape {e c : Char} (he : shortEscape e = some c) (acc rest : List Char) :
    scanString none acc ('\\' :: e :: rest) = scanString none (c :: acc) rest := by
  have hu : e ≠ 'u' := by rintro rfl; cases he
  rw [scanString.eq_7 _ _ _ _ (fun _ _ _ _ _ h _ ↦ hu h) hu, he]
  rfl

/-- A `\uXXXX` escape of a character below `0x10000`. -/
theorem scanString_escape_u {c : Char} (hc : c.toNat < 0x10000) (acc rest : List Char) :
    scanString none acc (("\\u" ++ hexDigits 4 c.toNat).data ++ rest) = scanString none (c :: acc) rest := by
  obtain ⟨a, b, d, e, h, hv⟩ := hexDigits_four hc
  have hs : ¬(0xD800 ≤ c.toNat ∧ c.toNat < 0xE000) := by have := toNat_valid c; omega
  have hhigh : isHighSurrogate c.toNat = false := by simp [isHighSurrogate]; omega
  simp only [String.data_append, h]
  simp [scanString, hv, hhigh, escapedChar, hs, Char.ofNat_toNat]

/-- The pair of `\uXXXX` escapes of a character above `0xFFFF`. -/
theorem scanString_escape_pair {c : Char} (hc : 0x10000 ≤ c.toNat) (acc rest : List Char) :
    scanString none acc (("\\u" ++ hexDigits 4 (0xD800 + (c.toNat - 0x10000) / 0x400) ++ "\\u" ++
      hexDigits 4 (0xDC00 + (c.toNat - 0x10000) % 0x400)).data ++ rest) = scanString none (c :: acc) rest := by
  have hlt := (toNat_valid c).resolve_left (by omega)
  obtain ⟨a, b, d, e, h, hv⟩ := hexDigits_four (show 0xD800 + (c.toNat - 0x10000) / 0x400 < 0x10000 by omega)
  obtain ⟨a', b', d', e', h', hv'⟩ := hexDigits_four (show 0xDC00 + (c.toNat - 0x10000) % 0x400 < 0x10000 by omega)
  have hhigh : isHighSurrogate (0xD800 + (c.toNat - 0x10000) / 0x400) = true := by
    simp [isHighSurrogate]; omega
  have hlow : isLowSurrogate (0xDC00 + (c.toNat - 0x10000) % 0x400) = true := by
    simp [isLowSurrogate]; omega
  have hjoin : joinSurrogates (0xD800 + (c.toNat - 0x10000) / 0x400) (0xDC00 + (c.toNat - 0x10000) % 0x400) = c := by
    have hsum : 0x10000 + (0xD800 + (c.toNat - 0x10000) / 0x400 - 0xD800) * 0x400 +
        (0xDC00 + (c.toNat - 0x10000) % 0x400 - 0xDC00) = c.toNat := by omega
    rw [joinSurrogates, hsum, Char.ofNat_toNat]
  simp only [String.data_append, h, h', List.append_assoc, List.cons_append, List.nil_append]
  simp [scanString, hv, hv', hhigh, hlow, hjoin]

/-- One character as `escapeCharAscii` writes it is read back. -/
theorem scanString_escapeCharAscii (c : Char) (acc rest : List Char) :
    scanString none acc ((escapeCharAscii c).data ++ rest) = scanString none (c :: acc) rest := by
  have hof : ∀ n, c.toNat = n → c = Char.ofNat n := fun n h ↦ by rw [← h, Char.ofNat_toNat]
  unfold escapeCharAscii
  by_cases h1 : c = '"'
  · rw [if_pos h1, h1]; exact scanString_shortEscape (e := '"') rfl acc rest
  by_cases h2 : c = '\\'
  · rw [if_neg h1, if_pos h2, h2]; exact scanString_shortEscape (e := '\\') rfl acc rest
  by_cases h3 : c = '\n'
  · rw [if_neg h1, if_neg h2, if_pos h3, h3]; exact scanString_shortEscape (e := 'n') rfl acc rest
  by_cases h4 : c = '\r'
  · rw [if_neg h1, if_neg h2, if_neg h3, if_pos h4, h4]; exact scanString_shortEscape (e := 'r') rfl acc rest
  by_cases h5 : c = '\t'
  · rw [if_neg h1, if_neg h2, if_neg h3, if_neg h4, if_pos h5, h5]
    exact scanString_shortEscape (e := 't') rfl acc rest
  rw [if_neg h1, if_neg h2, if_neg h3, if_neg h4, if_neg h5]
  by_cases h6 : c.toNat = 8
  · rw [if_pos h6, hof 8 h6]; exact scanString_shortEscape (e := 'b') rfl acc rest
  by_cases h7 : c.toNat = 12
  · rw [if_neg h6, if_pos h7, hof 12 h7]; exact scanString_shortEscape (e := 'f') rfl acc rest
  rw [if_neg h6, if_neg h7]
  by_cases h8 : 32 ≤ c.toNat ∧ c.toNat < 127
  · rw [if_pos h8]
    show scanString none acc (c :: rest) = _
    rw [scanString_plain none acc rest h1 h2, if_neg (by omega)]
    rfl
  rw [if_neg h8]
  by_cases h9 : c.toNat < 0x10000
  · rw [if_pos h9]; exact scanString_escape_u h9 acc rest
  · rw [if_neg h9]; exact scanString_escape_pair (by omega) acc rest

theorem data_join (l : List String) : (String.join l).data = l.flatMap String.data := by
  suffices h : ∀ acc : String, (l.foldl (· ++ ·) acc).data = acc.data ++ l.flatMap String.data from
    (h "").trans (List.nil_append _)
  induction l with
  | nil => simp
  | cons s l ih => intro acc; simp [ih]

/-- A string written by `quoteAscii` is read back, whatever follows it. -/
theorem scanString_quoteAscii (s : String) (rest : List Char) :
    ∃ body, (quoteAscii s).data ++ rest = '"' :: body ∧ scanString none [] body = some (s, rest) := by
  have hread : ∀ (cs acc : List Char), scanString none acc
      ((cs.flatMap fun c ↦ (escapeCharAscii c).data) ++ '"' :: rest) = some (String.mk (acc.reverse ++ cs), rest) := by
    intro cs
    induction cs with
    | nil => intro acc; simp [scanString, flushPending]
    | cons c cs ih => intro acc; simp [List.append_assoc, scanString_escapeCharAscii, ih]
  refine ⟨(s.data.flatMap fun c ↦ (escapeCharAscii c).data) ++ '"' :: rest, ?_, by simpa using hread s.data []⟩
  simp [quoteAscii, data_join, List.flatMap, Function.comp_def]

/-! ## Integers -/

/-- The text after a number, where no digit, point or exponent may continue it. -/
def EndsNumber (rest : List Char) : Prop :=
  ∀ c ∈ rest.head?, c.isDigit = false ∧ c ≠ '.' ∧ c ≠ 'e' ∧ c ≠ 'E'

theorem scanFraction_of_endsNumber {rest : List Char} (h : EndsNumber rest) : scanFraction rest = ([], rest) := by
  unfold scanFraction
  split
  · simp [EndsNumber] at h
  · rfl

theorem scanExponent_of_endsNumber {rest : List Char} (h : EndsNumber rest) : scanExponent rest = ([], rest) := by
  cases rest with
  | nil => rfl
  | cons c rest =>
    have hc := h c rfl
    simp [scanExponent, hc.2.2.1, hc.2.2.2]

/-- The decimal digits of a number: `0`, or a first digit from `1` to `9` and digits after it. -/
def DecimalDigits (digits : List Char) : Prop :=
  digits = ['0'] ∨ ∃ c cs, digits = c :: cs ∧ '1' ≤ c ∧ c ≤ '9' ∧ ∀ x ∈ cs, x.isDigit

theorem scanIntPart_of_digits {digits rest : List Char} (hd : DecimalDigits digits) (h : EndsNumber rest) :
    scanIntPart (digits ++ rest) = some (digits, rest) := by
  rcases hd with rfl | ⟨c, cs, rfl, h1, h9, hcs⟩
  · rfl
  · have hne : c ≠ '0' := by rintro rfl; exact absurd h1 (by decide)
    have htake : (cs ++ rest).takeWhile Char.isDigit = cs := by
      rw [List.takeWhile_append_of_pos hcs]
      cases rest with
      | nil => simp
      | cons x rest => simp [(h x rfl).1]
    have hdrop : (cs ++ rest).dropWhile Char.isDigit = rest := by
      rw [List.dropWhile_append_of_pos hcs]
      cases rest with
      | nil => simp
      | cons x rest => simp [(h x rfl).1]
    rw [List.cons_append, scanIntPart.eq_def]
    split
    · next heq => exact absurd (List.cons.inj heq).1 hne
    · next heq =>
      simp only [List.cons.injEq] at heq
      obtain ⟨rfl, rfl⟩ := heq
      simp [h1, h9, htake, hdrop]
    · contradiction

/-- The digits of a number, read back: its value and no more. -/
theorem scanNumber_of_digits (negative : Bool) {digits rest : List Char} (hd : DecimalDigits digits)
    (h : EndsNumber rest) :
    scanNumber ((if negative then '-' :: digits else digits) ++ rest) =
      some (.int (if negative then -(digitsValue digits : Int) else digitsValue digits), rest) := by
  have hint := scanIntPart_of_digits hd h
  have hhead : ∀ cs, digits ++ rest ≠ '-' :: cs := by
    rintro cs heq
    rcases hd with rfl | ⟨c, _, rfl, h1, -, -⟩
    · cases heq
    · simp only [List.cons_append, List.cons.injEq] at heq
      exact absurd (heq.1 ▸ h1) (by decide)
  unfold scanNumber
  cases negative <;> simp [hint, scanFraction_of_endsNumber h, scanExponent_of_endsNumber h]

theorem digitChar_isDigit : ∀ d < 10, (Nat.digitChar d).isDigit := by decide

theorem digitChar_nonzero : ∀ d < 10, 0 < d → '1' ≤ Nat.digitChar d ∧ Nat.digitChar d ≤ '9' := by decide

/-- The decimal text of a natural number: its digits, read back to the number. -/
theorem repr_digits (m : Nat) : DecimalDigits (toString m).data ∧ digitsValue (toString m).data = m := by
  obtain ⟨digits, hdigits, -, hall, hvalue, hhead⟩ :=
    toDigitsCore_spec (by decide : 1 < 10) (fun c ↦ c.toNat - '0'.toNat)
      (by decide) (m + 1) m [] (Nat.lt_succ_self m)
  rw [List.append_nil] at hdigits
  have htext : (toString m).data = digits := hdigits
  rw [htext]
  refine ⟨?_, hvalue⟩
  rcases Nat.eq_zero_or_pos m with rfl | hpos
  · left
    rw [← htext]
    rfl
  · obtain ⟨d, hd0, hd10, hd⟩ := hhead hpos
    obtain ⟨c, cs, rfl⟩ := List.exists_cons_of_ne_nil (List.ne_nil_of_mem (List.mem_of_mem_head? hd))
    simp only [List.head?_cons, Option.some.injEq] at hd
    subst hd
    refine .inr ⟨_, cs, rfl, (digitChar_nonzero d hd10 hd0).1, (digitChar_nonzero d hd10 hd0).2, fun x hx ↦ ?_⟩
    obtain ⟨e, he, rfl⟩ := hall x (List.mem_cons_of_mem _ hx)
    exact digitChar_isDigit e he

theorem isDigit_of_range {c : Char} (h1 : '1' ≤ c) (h9 : c ≤ '9') : c.isDigit := by
  simp only [Char.isDigit, Bool.and_eq_true, decide_eq_true_eq]
  exact ⟨Nat.le_trans (by decide) h1, h9⟩

theorem ne_of_isDigit {c : Char} (h : c.isDigit) :
    c ≠ 'n' ∧ c ≠ 't' ∧ c ≠ 'f' ∧ c ≠ 'N' ∧ c ≠ 'I' ∧ c ≠ '-' := by
  refine ⟨?_, ?_, ?_, ?_, ?_, ?_⟩ <;> rintro rfl <;> simp at h

/-- A value that starts with a digit, or with a minus and a digit, is a number. -/
theorem scanValue_of_number (fuel : Nat) {c : Char} {more : List Char}
    (hc : c.isDigit ∨ c = '-' ∧ ∀ d ∈ more.head?, d.isDigit) :
    scanValue (fuel + 1) (c :: more) = scanNumber (c :: more) := by
  have hconst : scanConstant (c :: more) = none := by
    rcases hc with hc | ⟨rfl, hd⟩
    · obtain ⟨hn, ht, hf, hN, hI, hm⟩ := ne_of_isDigit hc
      simp [scanConstant, constants, List.isPrefixOf, hn.symm, ht.symm, hf.symm, hN.symm, hI.symm, hm.symm]
    · cases more with
      | nil => rfl
      | cons d more => simp [scanConstant, constants, List.isPrefixOf, (ne_of_isDigit (hd d rfl)).2.2.2.2.1.symm]
  have hq : c ≠ '"' := by rintro rfl; simp at hc
  have hl : c ≠ '\x7b' := by rintro rfl; simp at hc
  have hs : c ≠ '[' := by rintro rfl; simp at hc
  rw [scanValue]
  simp only [hq, hl, hs, if_false, hconst, Option.orElse]

/-- An integer's text is read back as the integer, whatever follows that cannot continue it. -/
theorem scanValue_toString (fuel : Nat) (v : Int) {rest : List Char} (h : EndsNumber rest) :
    scanValue (fuel + 1) ((toString v).data ++ rest) = some (.int v, rest) := by
  cases v with
  | ofNat m =>
    obtain ⟨hd, hvalue⟩ := repr_digits m
    have htext : (toString (Int.ofNat m)).data = (toString m).data := rfl
    rw [htext]
    obtain ⟨c, cs, hcs⟩ := List.exists_cons_of_ne_nil (show (toString m).data ≠ [] by
      rcases hd with hd | ⟨c, cs, hd, -⟩ <;> simp [hd])
    have hdigit : c.isDigit := by
      rcases hd with hd | ⟨c', cs', hd, h1, h9, -⟩ <;> rw [hcs] at hd <;> simp only [List.cons.injEq] at hd
      · rw [hd.1]; rfl
      · rw [hd.1]; exact isDigit_of_range h1 h9
    rw [hcs, List.cons_append, scanValue_of_number fuel (.inl hdigit), ← List.cons_append, ← hcs]
    simpa [hvalue] using scanNumber_of_digits false hd h
  | negSucc m =>
    obtain ⟨hd, hvalue⟩ := repr_digits (m + 1)
    have htext : (toString (Int.negSucc m)).data = '-' :: (toString (m + 1)).data := rfl
    have hfirst : ∀ d ∈ ((toString (m + 1)).data ++ rest).head?, d.isDigit := by
      rcases hd with hd | ⟨c, cs, hd, h1, h9, -⟩ <;> rw [hd]
      · simp
      · simpa using isDigit_of_range h1 h9
    rw [htext, List.cons_append, scanValue_of_number fuel (.inr ⟨rfl, hfirst⟩), ← List.cons_append]
    have := scanNumber_of_digits true hd h
    simp only [if_true] at this
    rw [this, hvalue]
    rfl

theorem isWhitespace_of_isDigit {c : Char} (h : c.isDigit) : isWhitespace c = false := by
  simp only [isWhitespace, Bool.or_eq_false_iff, decide_eq_false_iff_not]
  refine ⟨⟨⟨?_, ?_⟩, ?_⟩, ?_⟩ <;> rintro rfl <;> simp at h

/-- An integer's text starts with a digit or a minus, so no whitespace is skipped before it. -/
theorem skipWs_toString (v : Int) (rest : List Char) :
    skipWs ((toString v).data ++ rest) = (toString v).data ++ rest := by
  cases v with
  | ofNat m =>
    have hd := (repr_digits m).1
    have htext : (toString (Int.ofNat m)).data = (toString m).data := rfl
    rw [htext]
    rcases hd with hd | ⟨c, cs, hd, h1, h9, -⟩ <;> rw [hd]
    · rfl
    · simp [skipWs, isWhitespace_of_isDigit (isDigit_of_range h1 h9)]
  | negSucc m => rfl

end UnsMetadataSync.JsonScanner
