import UnsMetadataSync.Sparkplug.Subscriber

/-!
# The alias cache

`alias_cache.py` keeps the subscriber's alias maps across restarts.  `serialize_alias_maps` turns
each key `(group, edge_node, device)` into the text `group|edge_node|device`, an absent device
written as the empty text, and each alias into its decimal text; `deserialize_alias_maps` splits
a key at its first two `|` and reads an empty device as absent.

The join is not injective.  An empty device, which `_topic_parts` gives for a topic that ends in
`/`, meets an absent one, and a `|` inside a group or an edge node can move between them; two such
keys become one text, and the later key's map replaces the earlier one's.

The alias infos pass through both functions unchanged, so their type is a parameter here.  `int`
is `String.toInt?`, which refuses the surrounding blanks, the `+` sign and the underscores that
`int` accepts; `str(alias)` never produces them.
-/

namespace UnsMetadataSync.Sparkplug.AliasCache

open Json Subscriber

/-- `str.split(sep, n)` on characters: at most `n` cuts, the rest left whole; `acc` holds the
current part, reversed. -/
def splitMax (sep : Char) : Nat → List Char → List Char → List (List Char)
  | _, acc, [] => [acc.reverse]
  | 0, acc, cs => [acc.reverse ++ cs]
  | n + 1, acc, c :: cs =>
    if c = sep then acc.reverse :: splitMax sep n [] cs else splitMax sep (n + 1) (c :: acc) cs

/-- The text `f"{group}|{edge_node}|{device_token}"` of a key. -/
def compositeKey (key : AliasKey) : String :=
  key.1 ++ "|" ++ key.2.1 ++ "|" ++ key.2.2.getD ""

variable {ι : Type}

/-- `serialize_alias_maps`: the maps by composite key; a later key with the same text replaces an
earlier one. -/
def serializeAliasMaps (aliasMaps : List (AliasKey × List (Int × ι))) : List (String × List (String × ι)) :=
  aliasMaps.foldl (fun serialised (key, entries) ↦
    setItem serialised (compositeKey key) (entries.map fun (index, info) ↦ (toString index, info))) []

/-- `{int(alias): info for alias, info in entries.items()}`. -/
def parseEntries (entries : List (String × ι)) : Except String (List (Int × ι)) :=
  entries.foldlM (fun aliasMap (text, info) ↦
    match text.toInt? with
    | some n => .ok (setItem aliasMap n info)
    | none => .error ("invalid literal for int() with base 10: '" ++ text ++ "'")) []

/-- `deserialize_alias_maps`. -/
def deserializeAliasMaps (data : List (String × List (String × ι))) :
    Except String (List (AliasKey × List (Int × ι))) :=
  data.foldlM (fun aliasMaps (key, entries) ↦
    match (splitMax '|' 2 [] key.toList).map String.mk with
    | [group, edgeNode, deviceToken] =>
      (parseEntries entries).map fun aliasMap ↦
        setItem aliasMaps (group, edgeNode, if deviceToken.isEmpty then none else some deviceToken) aliasMap
    | parts => .error ("not enough values to unpack (expected 3, got " ++ toString parts.length ++ ")"))
    []

/-! ## Keys that meet -/

theorem compositeKey_empty_device (group edgeNode : String) :
    compositeKey (group, edgeNode, some "") = compositeKey (group, edgeNode, none) := rfl

theorem compositeKey_move_bar (group x edgeNode : String) (device : Option String) :
    compositeKey (group ++ "|" ++ x, edgeNode, device) = compositeKey (group, x ++ "|" ++ edgeNode, device) := by
  simp only [compositeKey, String.append_assoc]

/-- For every group and edge node, a registry with both an absent and an empty device serializes
as the registry of the absent device alone, holding the empty device's map; and moving a `|`
between group and edge node does not change what is written. -/
theorem serializeAliasMaps_merges_keys (group edgeNode : String) (a b : List (Int × ι)) :
    serializeAliasMaps [((group, edgeNode, none), a), ((group, edgeNode, some ""), b)] =
        serializeAliasMaps [((group, edgeNode, none), b)] ∧
      ∀ x device, serializeAliasMaps [((group ++ "|" ++ x, edgeNode, device), a)] =
        serializeAliasMaps [((group, x ++ "|" ++ edgeNode, device), a)] := by
  refine ⟨?_, fun x device ↦ ?_⟩
  · simp [serializeAliasMaps, setItem, compositeKey_empty_device]
  · simp only [serializeAliasMaps, List.foldl_cons, List.foldl_nil, compositeKey_move_bar]

/-- The registry of an empty device comes back under the absent device. -/
example : deserializeAliasMaps (serializeAliasMaps [(("G", "E", some ""), [(5, "kiln_temp")])]) =
    .ok [(("G", "E", none), [(5, "kiln_temp")])] := by
  with_unfolding_all rfl

end UnsMetadataSync.Sparkplug.AliasCache
