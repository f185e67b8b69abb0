import Mathlib.Data.List.Nodup
import Mathlib.Algebra.Group.Int
import Mathlib.Data.String.Basic

/-!
# JSON values

The values the service passes through `json.loads` and `json.dumps`, the text
`json.dumps(value, ensure_ascii=False, separators=(",", ":"))` produces for them, and the
assignment of a key in a Python dict.  A float is kept as the text `float.__repr__` gives it:
nothing in the modelled code computes with one.
-/

namespace UnsMetadataSync.Json

/-- A JSON value; an object keeps its keys in insertion order, as a Python dict does. -/
inductive JsonValue where
  | null
  | bool (b : Bool)
  | int (n : Int)
  | float (repr : String)
  | str (s : String)
  | arr (items : List JsonValue)
  | obj (entries : List (String × JsonValue))
  deriving Inhabited

/-- One character of a JSON string literal under `ensure_ascii=False`: quote, backslash and
the control characters are escaped, everything else is written as it is. -/
def escapeChar (c : Char) : String :=
  if c = '"' then "\\\"" else if c = '\\' then "\\\\"
  else if c = '\n' then "\\n" else if c = '\r' then "\\r" else if c = '\t' then "\\t"
  else if c.toNat = 8 then "\\b" else if c.toNat = 12 then "\\f"
  else if c.toNat < 32 then
    "\\u" ++ String.mk ((List.replicate (4 - (Nat.toDigits 16 c.toNat).length) '0') ++
      Nat.toDigits 16 c.toNat)
  else c.toString

/-- A JSON string literal. -/
def quote (s : String) : String :=
  "\"" ++ String.join (s.toList.map escapeChar) ++ "\""

/-- `n` as `width` lower-case hexadecimal digits. -/
def hexDigits (width n : Nat) : String :=
  String.mk (List.replicate (width - (Nat.toDigits 16 n).length) '0' ++ Nat.toDigits 16 n)

/-- One character of a JSON string literal under `ensure_ascii=True`: the short escapes, the
printable ASCII characters as they are, and every other character as `\\u` escapes, a pair of
surrogates above the Basic Multilingual Plane. -/
def escapeCharAscii (c : Char) : String :=
  if c = '"' then "\\\"" else if c = '\\' then "\\\\"
  else if c = '\n' then "\\n" else if c = '\r' then "\\r" else if c = '\t' then "\\t"
  else if c.toNat = 8 then "\\b" else if c.toNat = 12 then "\\f"
  else if 32 ≤ c.toNat ∧ c.toNat < 127 then c.toString
  else if c.toNat < 0x10000 then "\\u" ++ hexDigits 4 c.toNat
  else
    let n := c.toNat - 0x10000
    "\\u" ++ hexDigits 4 (0xD800 + n / 0x400) ++ "\\u" ++ hexDigits 4 (0xDC00 + n % 0x400)

/-- A JSON string literal under `ensure_ascii=True`. -/
def quoteAscii (s : String) : String :=
  "\"" ++ String.join (s.toList.map escapeCharAscii) ++ "\""

mutual

/-- `json.dumps(value, ensure_ascii=False, separators=(",", ":"))`. -/
def dumps : JsonValue → String
  | .null => "null"
  | .bool b => if b then "true" else "false"
  | .int n => toString n
  | .float repr => repr
  | .str s => quote s
  | .arr items => "[" ++ dumpsItems items ++ "]"
  | .obj entries => "\x7b" ++ dumpsEntries entries ++ "\x7d"

/-- The items of an array, separated by commas. -/
def dumpsItems : List JsonValue → String
  | [] => ""
  | [v] => dumps v
  | v :: vs => dumps v ++ "," ++ dumpsItems vs

/-- The members of an object, separated by commas. -/
def dumpsEntries : List (String × JsonValue) → String
  | [] => ""
  | [(k, v)] => quote k ++ ":" ++ dumps v
  | (k, v) :: rest => quote k ++ ":" ++ dumps v ++ "," ++ dumpsEntries rest

end

/-- `d[key] = value` on a Python dict kept as an association list in insertion order: replace
the value in place, or append a new key. -/
def setItem {κ β : Type} [BEq κ] (d : List (κ × β)) (key : κ) (value : β) : List (κ × β) :=
  if d.any (·.1 == key) then d.map fun e ↦ if e.1 == key then (key, value) else e
  else d ++ [(key, value)]

/-- The pairs assigned into a dict one after the other, as `for k, v in pairs: d[k] = v`. -/
def setItems {κ β : Type} [BEq κ] (d pairs : List (κ × β)) : List (κ × β) :=
  pairs.foldl (fun d p ↦ setItem d p.1 p.2) d

/-! ## Lookups in a dict

With keys compared by a decidable equality, `d.lookup k` is `d.get(k)`; these lemmas say what
`setItem` does to it and to the keys, so that callers never unfold `setItem`. -/

section Dict

variable {κ β : Type} [DecidableEq κ]

@[simp] theorem lookup_cons (a k : κ) (b : β) (d : List (κ × β)) :
    ((a, b) :: d).lookup k = if k = a then some b else d.lookup k := by
  by_cases hk : k = a
  · subst hk; simp [List.lookup_cons]
  · simp [List.lookup_cons, beq_false_of_ne hk, hk]

theorem mem_of_lookup_eq_some {d : List (κ × β)} {k : κ} {v : β} (h : d.lookup k = some v) :
    (k, v) ∈ d := by
  induction d with
  | nil => cases h
  | cons e d ih =>
    obtain ⟨a, b⟩ := e
    by_cases hk : k = a
    · subst hk; simp_all
    · simp only [lookup_cons, hk, if_false] at h; exact List.mem_cons_of_mem _ (ih h)

theorem lookup_eq_some_of_mem {d : List (κ × β)} (hd : (d.map Prod.fst).Nodup) {k : κ} {v : β}
    (h : (k, v) ∈ d) : d.lookup k = some v := by
  induction d with
  | nil => cases h
  | cons e d ih =>
    obtain ⟨a, b⟩ := e
    simp only [List.map_cons, List.nodup_cons] at hd
    rcases List.mem_cons.1 h with he | hmem
    · cases he; simp
    · have hk : k ≠ a := by rintro rfl; exact hd.1 (List.mem_map_of_mem Prod.fst hmem)
      simp [hk, ih hd.2 hmem]

theorem lookup_eq_none {d : List (κ × β)} {k : κ} : d.lookup k = none ↔ k ∉ d.map Prod.fst := by
  induction d with
  | nil => simp
  | cons e d ih =>
    obtain ⟨a, b⟩ := e
    by_cases hk : k = a <;> simp [hk, ih]

/-- The order of a dict's entries does not matter to a lookup. -/
theorem lookup_of_perm {d d' : List (κ × β)} (hp : d.Perm d') (hd : (d.map Prod.fst).Nodup) (k : κ) :
    d.lookup k = d'.lookup k := by
  cases h : d'.lookup k with
  | none => exact lookup_eq_none.2 fun hk ↦ lookup_eq_none.1 h ((hp.map Prod.fst).subset hk)
  | some v => exact lookup_eq_some_of_mem hd (hp.symm.subset (mem_of_lookup_eq_some h))

theorem any_key_iff (d : List (κ × β)) (key : κ) :
    d.any (·.1 == key) = true ↔ key ∈ d.map Prod.fst := by
  simp only [List.any_eq_true, beq_iff_eq, List.mem_map]

theorem setItem_of_mem {d : List (κ × β)} {key : κ} (h : key ∈ d.map Prod.fst) (value : β) :
    setItem d key value = d.map fun e ↦ if e.1 == key then (key, value) else e :=
  if_pos ((any_key_iff d key).2 h)

theorem setItem_of_not_mem {d : List (κ × β)} {key : κ} (h : key ∉ d.map Prod.fst) (value : β) :
    setItem d key value = d ++ [(key, value)] :=
  if_neg (mt (any_key_iff d key).1 h)

theorem lookup_map_replace (d : List (κ × β)) (key k : κ) (value : β) :
    (d.map fun e ↦ if e.1 == key then (key, value) else e).lookup k =
      if k = key then (d.lookup k).map fun _ ↦ value else d.lookup k := by
  induction d with
  | nil => simp
  | cons e d ih =>
    obtain ⟨a, b⟩ := e
    by_cases ha : a = key
    · subst ha
      rw [List.map_cons, if_pos (beq_self_eq_true a), lookup_cons, ih, lookup_cons]
      by_cases hk : k = a <;> simp [hk]
    · rw [List.map_cons, if_neg (by simpa using ha), lookup_cons, ih, lookup_cons]
      by_cases hk : k = a
      · subst hk; simp [ha]
      · simp [hk]

theorem lookup_append (d d' : List (κ × β)) (k : κ) :
    (d ++ d').lookup k = (d.lookup k).or (d'.lookup k) := by
  induction d with
  | nil => simp
  | cons e d ih =>
    obtain ⟨a, b⟩ := e
    by_cases hk : k = a <;> simp [hk, ih]

/-- `d[key] = value` then `d.get(k)`. -/
theorem lookup_setItem (d : List (κ × β)) (key k : κ) (value : β) :
    (setItem d key value).lookup k = if k = key then some value else d.lookup k := by
  by_cases h : key ∈ d.map Prod.fst
  · rw [setItem, if_pos ((any_key_iff d key).2 h), lookup_map_replace]
    by_cases hk : k = key
    · subst hk
      obtain ⟨v, hv⟩ := Option.ne_none_iff_exists'.1 (mt lookup_eq_none.1 (not_not.2 h))
      simp [hv]
    · simp [hk]
  · rw [setItem, if_neg (mt (any_key_iff d key).1 h), lookup_append]
    by_cases hk : k = key
    · subst hk; simp [lookup_eq_none.2 h]
    · cases d.lookup k <;> simp [hk]

/-- An entry after `d[key] = value` was there before, or is the one written. -/
theorem mem_setItem {d : List (κ × β)} {key : κ} {value : β} {e : κ × β} (h : e ∈ setItem d key value) :
    e ∈ d ∨ e = (key, value) := by
  unfold setItem at h
  split at h
  · obtain ⟨e', he', rfl⟩ := List.mem_map.1 h
    by_cases hk : e'.1 = key
    · exact .inr (by simp [hk])
    · exact .inl (by simpa [hk] using he')
  · exact (List.mem_append.1 h).imp_right List.mem_singleton.1

/-- A new key goes to the end; an old one keeps its place. -/
theorem keys_setItem (d : List (κ × β)) (key : κ) (value : β) :
    (setItem d key value).map Prod.fst =
      if key ∈ d.map Prod.fst then d.map Prod.fst else d.map Prod.fst ++ [key] := by
  by_cases h : key ∈ d.map Prod.fst
  · simp only [setItem, (any_key_iff d key).2 h, if_true, h, List.map_map]
    congr 1; funext e; by_cases he : e.1 = key <;> simp [he]
  · simp [setItem, mt (any_key_iff d key).1 h, h]

theorem nodup_keys_setItem {d : List (κ × β)} (hd : (d.map Prod.fst).Nodup) (key : κ) (value : β) :
    ((setItem d key value).map Prod.fst).Nodup := by
  rw [keys_setItem]
  split_ifs with h
  · exact hd
  · simpa [List.nodup_append, hd] using h

/-- `d[key] = v` then `d[key] = w`: the second write wins. -/
theorem setItem_setItem (d : List (κ × β)) (key : κ) (v w : β) :
    setItem (setItem d key v) key w = setItem d key w := by
  have hmem : key ∈ (setItem d key v).map Prod.fst := by
    rw [keys_setItem]; split_ifs with h <;> simp [h]
  rw [setItem_of_mem hmem]
  by_cases h : key ∈ d.map Prod.fst
  · rw [setItem_of_mem h, setItem_of_mem h, List.map_map]
    congr 1; funext e; by_cases he : e.1 = key <;> simp [he]
  · rw [setItem_of_not_mem h, setItem_of_not_mem h, List.map_append]
    refine congrArg₂ _ ((List.map_congr_left fun e he ↦ ?_).trans (List.map_id _)) (by simp)
    have : e.1 ≠ key := fun hk ↦ h (hk ▸ List.mem_map_of_mem _ he)
    simp [this]

/-- `d.pop(key)` on a dict with one entry per key, as a filter. -/
theorem lookup_filter_key (d : List (κ × β)) (key k : κ) :
    (d.filter (·.1 != key)).lookup k = if k = key then none else d.lookup k := by
  induction d with
  | nil => simp
  | cons x d ih =>
    obtain ⟨a, b⟩ := x
    by_cases ha : a = key
    · subst ha
      rw [List.filter_cons_of_neg (by simp), ih]
      by_cases hk : k = a <;> simp [hk]
    · rw [List.filter_cons_of_pos (by simpa using ha), lookup_cons, ih]
      by_cases hk : k = a
      · simp [hk, ha]
      · simp [hk]

/-- The keys left by `d.pop(key)`: `keys.remove(key)`, when each key is there once. -/
theorem keys_filter_key {d : List (κ × β)} (hd : (d.map Prod.fst).Nodup) (key : κ) :
    (d.filter (·.1 != key)).map Prod.fst = (d.map Prod.fst).erase key := by
  rw [hd.erase_eq_filter, List.filter_map]; rfl

/-- In a dict with one entry per key, an entry's key survives a filter exactly when the entry does. -/
theorem mem_keys_filter_iff {d : List (κ × β)} (hd : (d.map Prod.fst).Nodup)
    {p : κ × β → Bool} {x : κ × β} (hx : x ∈ d) :
    x.1 ∈ (d.filter p).map Prod.fst ↔ p x = true := by
  constructor
  · intro h
    obtain ⟨y, hy, hyx⟩ := List.mem_map.1 h
    obtain ⟨hyE, hpy⟩ := List.mem_filter.1 hy
    have : y.2 = x.2 := Option.some.inj <| (lookup_eq_some_of_mem hd (hyx ▸ hyE)).symm.trans
      (lookup_eq_some_of_mem hd hx)
    rwa [Prod.ext hyx this] at hpy
  · exact fun h ↦ List.mem_map_of_mem _ (List.mem_filter.2 ⟨hx, h⟩)

/-- A dict with its values mapped. -/
theorem lookup_map_snd {γ : Type} (d : List (κ × γ)) (f : γ → β) (k : κ) :
    (d.map fun e ↦ (e.1, f e.2)).lookup k = (d.lookup k).map f := by
  induction d with
  | nil => rfl
  | cons e d ih =>
    obtain ⟨a, b⟩ := e
    by_cases hk : k = a <;> simp [hk, ih]

/-- After assigning pairs, a key's value is its last one among them, else its old one. -/
theorem lookup_setItems (d pairs : List (κ × β)) (k : κ) :
    (setItems d pairs).lookup k = (pairs.reverse.lookup k).or (d.lookup k) := by
  induction pairs generalizing d with
  | nil => simp [setItems]
  | cons p pairs ih =>
    obtain ⟨a, b⟩ := p
    rw [setItems, List.foldl_cons, ← setItems, ih, List.reverse_cons, lookup_append, lookup_setItem,
      Option.or_assoc]
    by_cases hk : k = a <;> simp [hk]

/-- A dict built from pairs of distinct keys answers as the pairs do, in any order. -/
theorem lookup_setItems_of_perm {pairs rows : List (κ × β)} (hp : pairs.Perm rows)
    (hd : (rows.map Prod.fst).Nodup) (k : κ) : (setItems [] pairs).lookup k = rows.lookup k := by
  rw [lookup_setItems, List.lookup_nil, Option.or_none]
  exact (lookup_of_perm ((List.reverse_perm pairs).trans hp).symm hd k).symm

end Dict

/-! ## Python's view of a JSON value

What `json.loads` returns is `None`, a `bool`, an `int`, a `float`, a `str`, a `list` or a `dict`;
the code tests these for truth, asks their type and prints them with `str`. -/

/-- `type(value).__name__`. -/
def pyTypeName : JsonValue → String
  | .null => "NoneType"
  | .bool _ => "bool"
  | .int _ => "int"
  | .float _ => "float"
  | .str _ => "str"
  | .arr _ => "list"
  | .obj _ => "dict"

/-- `bool(value)`: `None`, zeros and empty containers are false. -/
def pyTruthy : JsonValue → Bool
  | .null => false
  | .bool b => b
  | .int n => n != 0
  | .float repr => !(repr == "0.0" || repr == "-0.0")
  | .str s => !s.isEmpty
  | .arr items => !items.isEmpty
  | .obj entries => !entries.isEmpty

/-- `value or default`. -/
def pyOr (value default : JsonValue) : JsonValue :=
  if pyTruthy value then value else default

/-- `d.get(key)`: `None` for a missing key. -/
def pyGet (d : List (String × JsonValue)) (key : String) : JsonValue :=
  (d.lookup key).getD .null

/-- The apostrophe, Python's default quote. -/
def apostrophe : Char := Char.ofNat 39

/-- One character of `repr(s)` inside the quote `quote`.  Of the characters Python does not
print, the C0 and C1 controls, DEL, the no-break space and the soft hyphen are escaped here;
other unprintable code points (format characters, unassigned ones) are written as they are. -/
def reprChar (quote c : Char) : String :=
  if c = quote ∨ c = '\\' then "\\" ++ c.toString
  else if c = '\t' then "\\t" else if c = '\n' then "\\n" else if c = '\r' then "\\r"
  else if c.toNat < 32 ∨ (127 ≤ c.toNat ∧ c.toNat < 161) ∨ c.toNat = 173 then
    "\\x" ++ hexDigits 2 c.toNat
  else c.toString

/-- `repr(s)`: in apostrophes, or in double quotes when `s` holds an apostrophe and no double
quote. -/
def pyReprStr (s : String) : String :=
  let quote := if apostrophe ∈ s.toList ∧ '"' ∉ s.toList then '"' else apostrophe
  quote.toString ++ String.join (s.toList.map (reprChar quote)) ++ quote.toString

mutual

/-- `repr(value)`. -/
def pyRepr : JsonValue → String
  | .null => "None"
  | .bool b => if b then "True" else "False"
  | .int n => toString n
  | .float repr => repr
  | .str s => pyReprStr s
  | .arr items => "[" ++ reprItems items ++ "]"
  | .obj entries => "\x7b" ++ reprEntries entries ++ "\x7d"

/-- The items of a list, separated by `, `. -/
def reprItems : List JsonValue → String
  | [] => ""
  | [v] => pyRepr v
  | v :: vs => pyRepr v ++ ", " ++ reprItems vs

/-- The members of a dict, separated by `, `. -/
def reprEntries : List (String × JsonValue) → String
  | [] => ""
  | [(k, v)] => pyReprStr k ++ ": " ++ pyRepr v
  | (k, v) :: rest => pyReprStr k ++ ": " ++ pyRepr v ++ ", " ++ reprEntries rest

end

/-- `str(value)`: a string is itself, anything else its `repr`. -/
def pyStr : JsonValue → String
  | .str s => s
  | v => pyRepr v

/-- `len(text.encode("utf-8"))`. -/
def utf8Length (text : String) : Nat := text.utf8ByteSize

end UnsMetadataSync.Json
