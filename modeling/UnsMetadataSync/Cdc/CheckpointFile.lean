import UnsMetadataSync.Cdc.Checkpoint
import UnsMetadataSync.JsonScanner

/-!
# The checkpoint file

`PersistentCheckpointStore` starts from its file: `_load_from_disk` reads it with `json.loads`,
keeps nothing when the file is missing, empty of JSON, not JSON or not an object, and otherwise
keeps the members whose values are integers (`True` and `False` among them, as `bool` is a
subclass of `int`).  `_write_locked` writes the dict with `json.dump(positions, sort_keys=True)`.

What is written is read back (`loadFromDisk_dumpPositions`), so while every write succeeds a store
opened on the file of another one loads what the other one holds, after any calls
(`checkpoint_stores_interchangeable`).  A file that is not UTF-8, or that cannot be read, is outside
the model: the text is a `String`, and an `OSError` on reading is not modelled.
-/

namespace UnsMetadataSync.Cdc.Checkpoint

open Json JsonScanner

/-! ## Reading the file -/

/-- One turn of the loop of `_load_from_disk`: an integer value is kept under its key. -/
def keepPosition (filtered : Positions) : String × JsonValue → Positions
  | (key, .int n) => setItem filtered key n
  | (key, .bool b) => setItem filtered key (if b then 1 else 0)
  | _ => filtered

/-- The loop of `_load_from_disk` over the members of the object read. -/
def filterPositions (data : List (String × JsonValue)) : Positions :=
  data.foldl keepPosition []

/-- `_load_from_disk` of the file's text; none when the file does not exist. -/
def loadFromDisk : Option String → Positions
  | none => []
  | some raw =>
    match if raw.isEmpty then some (.obj []) else loads raw with
    | some (.obj data) => filterPositions data
    | _ => []

/-- `PersistentCheckpointStore(path)` on a path whose file holds `file`. -/
def PersistentCheckpointStore.create (file : Option String) : PersistentCheckpointStore :=
  ⟨loadFromDisk file, file⟩

theorem nodup_loadFromDisk (file : Option String) : ((loadFromDisk file).map Prod.fst).Nodup := by
  have hfold : ∀ (data : List (String × JsonValue)) (acc : Positions), (acc.map Prod.fst).Nodup →
      ((data.foldl keepPosition acc).map Prod.fst).Nodup := by
    intro data
    induction data with
    | nil => exact fun _ h ↦ h
    | cons entry data ih =>
      intro acc hacc
      obtain ⟨key, value⟩ := entry
      apply ih
      cases value <;> first | exact hacc | exact nodup_keys_setItem hacc _ _
  unfold loadFromDisk
  split
  · exact List.nodup_nil
  · split
    · exact hfold _ [] List.nodup_nil
    · exact List.nodup_nil

/-! ## Reading back what was written -/

/-- The text of one member of the file. -/
def memberText (entry : String × Int) : List Char :=
  (quoteAscii entry.1 ++ ": " ++ toString entry.2).data

theorem data_intercalate (sep first : String) (rest : List String) :
    (sep.intercalate (first :: rest)).data = first.data ++ rest.flatMap fun s ↦ sep.data ++ s.data := by
  have hgo : ∀ (acc : String) (l : List String),
      (String.intercalate.go acc sep l).data = acc.data ++ l.flatMap fun s ↦ sep.data ++ s.data := by
    intro acc l
    induction l generalizing acc with
    | nil => simp [String.intercalate.go]
    | cons s l ih => simp [String.intercalate.go, ih]
  exact hgo first rest

/-- The text `dumpPositions` writes for the entries in the order it sorts them. -/
theorem data_dumpPositions (d : Positions) :
    (dumpPositions d).data = '\x7b' :: (match d.mergeSort fun a b ↦ decide (a.1 ≤ b.1) with
      | [] => []
      | e :: es => memberText e ++ es.flatMap fun e ↦ ',' :: ' ' :: memberText e) ++ ['\x7d'] := by
  unfold dumpPositions
  split <;> rename_i h <;> rw [h]
  · rfl
  · simp [data_intercalate, memberText, List.flatMap_map]

theorem skipWs_of_not_whitespace {c : Char} (h : isWhitespace c = false) (cs : List Char) :
    skipWs (c :: cs) = c :: cs := by
  simp [skipWs, h]

theorem skipWs_memberText (entry : String × Int) (rest : List Char) :
    skipWs (memberText entry ++ rest) = memberText entry ++ rest := by
  obtain ⟨body, hbody, -⟩ := scanString_quoteAscii entry.1 (": ".data ++ (toString entry.2).data ++ rest)
  simp only [memberText, String.data_append, List.append_assoc] at hbody ⊢
  rw [hbody]
  exact skipWs_of_not_whitespace (c := '"') rfl _

theorem skipWs_space (cs : List Char) : skipWs (' ' :: cs) = skipWs cs := by
  simp [skipWs, isWhitespace]

/-- One member of the file is read back, then the object ends or the next member follows. -/
theorem scanMembers_memberText_cons (fuel : Nat) (acc : List (String × JsonValue)) (e : String × Int)
    (hkey : e.1 ∉ acc.map Prod.fst) :
    (∀ rest, scanMembers (fuel + 2) acc (memberText e ++ '\x7d' :: rest) =
      some (.obj (acc ++ [(e.1, .int e.2)]), rest)) ∧
    (∀ more, scanMembers (fuel + 2) acc (memberText e ++ ',' :: ' ' :: more) =
      scanMembers (fuel + 1) (acc ++ [(e.1, .int e.2)]) (skipWs more)) := by
  have hkeyed : ∀ tail, ∃ body, memberText e ++ tail = '"' :: body ∧
      scanString none [] body = some (e.1, ':' :: ' ' :: (toString e.2).data ++ tail) := fun tail ↦ by
    obtain ⟨body, hbody, hscan⟩ := scanString_quoteAscii e.1 (':' :: ' ' :: (toString e.2).data ++ tail)
    exact ⟨body, by rw [← hbody]; simp [memberText], hscan⟩
  refine ⟨fun rest ↦ ?_, fun more ↦ ?_⟩
  · obtain ⟨body, htext, hscan⟩ := hkeyed ('\x7d' :: rest)
    rw [htext]
    simp [scanMembers, hscan, skipWs_of_not_whitespace (c := ':') rfl, skipWs_space, skipWs_toString,
      scanValue_toString fuel e.2 (by simp [EndsNumber] : EndsNumber ('\x7d' :: rest)), setItem_of_not_mem hkey,
      skipWs_of_not_whitespace (c := '\x7d') rfl]
  · obtain ⟨body, htext, hscan⟩ := hkeyed (',' :: ' ' :: more)
    rw [htext]
    simp [scanMembers, hscan, skipWs_of_not_whitespace (c := ':') rfl, skipWs_space, skipWs_toString,
      scanValue_toString fuel e.2 (by simp [EndsNumber] : EndsNumber (',' :: ' ' :: more)),
      setItem_of_not_mem hkey, skipWs_of_not_whitespace (c := ',') rfl]

/-- The members of the file are read back in order, each its integer. -/
theorem scanMembers_memberText (e : String × Int) (es : List (String × Int)) (acc : List (String × JsonValue))
    (hnodup : ((e :: es).map Prod.fst).Nodup) (hfresh : ∀ x ∈ e :: es, x.1 ∉ acc.map Prod.fst)
    (fuel : Nat) (hfuel : es.length + 2 ≤ fuel) (rest : List Char) :
    scanMembers fuel acc (memberText e ++ (es.flatMap fun e ↦ ',' :: ' ' :: memberText e) ++ '\x7d' :: rest) =
      some (.obj (acc ++ (e :: es).map fun e ↦ (e.1, .int e.2)), rest) := by
  obtain ⟨f, rfl⟩ : ∃ f, fuel = f + 2 := ⟨fuel - 2, by omega⟩
  have hmember := scanMembers_memberText_cons f acc e (hfresh e (List.mem_cons_self _ _))
  induction es generalizing e acc f with
  | nil => simpa using hmember.1 rest
  | cons e' es ih =>
    obtain ⟨g, rfl⟩ : ∃ g, f = g + 1 := ⟨f - 1, by simp at hfuel; omega⟩
    have hfresh' : ∀ x ∈ e' :: es, x.1 ∉ (acc ++ [(e.1, JsonValue.int e.2)]).map Prod.fst := by
      intro x hx
      have hxe : x.1 ≠ e.1 := fun h ↦ (List.nodup_cons.1 hnodup).1 (h ▸ List.mem_map_of_mem _ hx)
      simpa [hxe] using hfresh x (List.mem_cons_of_mem _ hx)
    have h := ih e' (acc ++ [(e.1, .int e.2)]) (List.nodup_cons.1 hnodup).2 hfresh' g
      (by simp at hfuel ⊢; omega) (scanMembers_memberText_cons g _ e' (hfresh' e' (List.mem_cons_self _ _)))
    rw [List.flatMap_cons, ← List.append_assoc, List.append_assoc (memberText e)]
    simpa [hmember.2, skipWs_memberText] using h

theorem length_le_flatMap_memberText (es : List (String × Int)) :
    2 * es.length ≤ (es.flatMap fun e ↦ ',' :: ' ' :: memberText e).length := by
  induction es with
  | nil => simp
  | cons e es ih =>
    simp only [List.flatMap_cons, List.length_append, List.length_cons]
    omega

theorem memberText_head (e : String × Int) : ∃ body, memberText e = '"' :: body :=
  ⟨_, by simp [memberText, quoteAscii]; rfl⟩

theorem scanValue_object (fuel : Nat) (e : String × Int) (cs : List Char) :
    scanValue (fuel + 1) ('\x7b' :: (memberText e ++ cs)) = scanMembers fuel [] (memberText e ++ cs) := by
  obtain ⟨body, hbody⟩ := memberText_head e
  rw [hbody, List.cons_append, scanValue]
  simp [skipWs, isWhitespace]

/-- `json.loads` of the file reads back every entry, in the order the file has them. -/
theorem loads_dumpPositions (d : Positions) (hd : (d.map Prod.fst).Nodup) :
    loads (dumpPositions d) =
      some (.obj ((d.mergeSort fun a b ↦ decide (a.1 ≤ b.1)).map fun e ↦ (e.1, .int e.2))) := by
  have hsorted := (List.mergeSort_perm d fun a b ↦ decide (a.1 ≤ b.1))
  have htext := data_dumpPositions d
  unfold loads
  rw [show (dumpPositions d).toList = (dumpPositions d).data from rfl, htext,
    show (dumpPositions d).length = (dumpPositions d).data.length from rfl, htext]
  generalize d.mergeSort (fun a b ↦ decide (a.1 ≤ b.1)) = sorted at hsorted
  cases sorted with
  | nil => rfl
  | cons e es =>
    have hfuel := length_le_flatMap_memberText es
    have hnodup : ((e :: es).map Prod.fst).Nodup := (hsorted.map Prod.fst).nodup_iff.2 hd
    have hscan := scanMembers_memberText e es [] hnodup (by simp)
      ((memberText e ++ (es.flatMap fun e ↦ ',' :: ' ' :: memberText e) ++ ['\x7d']).length + 1)
      (by simp only [List.length_append, List.length_singleton]; omega) []
    rw [List.cons_append, List.head?_cons, if_neg (by decide), List.length_cons]
    simp only [List.append_assoc] at hscan ⊢
    rw [skipWs_of_not_whitespace (c := '\x7b') rfl, scanValue_object, hscan]
    simp [skipWs]

example : dumpPositions [("uns_meta_slot", 100), ("other", -5)] = "\x7b\"other\": -5, \"uns_meta_slot\": 100\x7d" ∧
    loads (dumpPositions [("uns_meta_slot", 100), ("other", -5)]) =
      some (.obj [("other", .int (-5)), ("uns_meta_slot", .int 100)]) := by
  with_unfolding_all exact ⟨rfl, rfl⟩

/-- The members of the file, all integers under distinct keys, are kept as they are. -/
theorem filterPositions_ints (l : Positions) (hl : (l.map Prod.fst).Nodup) :
    filterPositions (l.map fun e ↦ (e.1, .int e.2)) = l := by
  have hfold : ∀ acc : Positions, ((acc ++ l).map Prod.fst).Nodup →
      (l.map fun e ↦ (e.1, JsonValue.int e.2)).foldl keepPosition acc = acc ++ l := by
    clear hl
    induction l with
    | nil => simp
    | cons e l ih =>
      intro acc hacc
      have hkey : e.1 ∉ acc.map Prod.fst := fun h ↦ by
        simp only [List.map_append, List.map_cons, List.nodup_append] at hacc
        exact hacc.2.2 h (List.mem_cons_self _ _)
      rw [List.map_cons, List.foldl_cons, keepPosition, setItem_of_not_mem hkey, ih]
      · simp
      · simpa using hacc
  exact hfold [] hl

theorem isEmpty_of_cons {s : String} {c : Char} {cs : List Char} (h : s.data = c :: cs) :
    s.isEmpty = false := by
  obtain ⟨data⟩ := s
  cases h
  simp only [String.isEmpty, String.endPos, String.utf8ByteSize, String.utf8ByteSize.go, beq_eq_false_iff_ne]
  intro h
  have := congrArg String.Pos.byteIdx h
  have := Char.utf8Size_pos c
  simp_all

/-- What `_write_locked` writes, `_load_from_disk` reads back: every slot has its position. -/
theorem loadFromDisk_dumpPositions (d : Positions) (hd : (d.map Prod.fst).Nodup) (slotName : String) :
    (loadFromDisk (some (dumpPositions d))).get slotName = d.get slotName := by
  have hsorted := List.mergeSort_perm d fun a b ↦ decide (a.1 ≤ b.1)
  have hne : (dumpPositions d).isEmpty = false := isEmpty_of_cons (data_dumpPositions d)
  rw [loadFromDisk, hne, if_neg Bool.false_ne_true, loads_dumpPositions d hd]
  dsimp only
  rw [filterPositions_ints _ ((hsorted.map Prod.fst).nodup_iff.2 hd)]
  exact lookup_of_perm hsorted ((hsorted.map Prod.fst).nodup_iff.2 hd) slotName

/-! ## Opening the file again -/

namespace PersistentCheckpointStore

/-- The store's file reads back as its dict, which has one entry per slot. -/
def FileReadsBack (store : PersistentCheckpointStore) : Prop :=
  (store.positions.map Prod.fst).Nodup ∧ ∀ slotName, (create store.file).load slotName = store.load slotName

theorem fileReadsBack_create (file : Option String) : (create file).FileReadsBack :=
  ⟨nodup_loadFromDisk file, fun _ ↦ rfl⟩

theorem fileReadsBack_writeLocked {store : PersistentCheckpointStore} (h : (store.positions.map Prod.fst).Nodup) :
    (store.writeLocked .written).2.FileReadsBack :=
  ⟨h, loadFromDisk_dumpPositions store.positions h⟩

/-- A call whose write succeeds writes the dict it leaves, or leaves the dict as it was. -/
theorem FileReadsBack.call {store : PersistentCheckpointStore} (h : store.FileReadsBack) (c : CheckpointCall) :
    (store.call c .written).2.FileReadsBack := by
  cases c with
  | save slotName lsn =>
    rw [PersistentCheckpointStore.call, save]
    split
    · exact h
    · exact fileReadsBack_writeLocked (Positions.nodup_set h.1 slotName lsn)
  | reset slotName expectedLsn newLsn force =>
    rw [PersistentCheckpointStore.call, reset_eq]
    cases hm : store.toInMemory.reset slotName expectedLsn newLsn force with
    | error => exact h
    | ok m =>
      have hnodup := InMemoryCheckpointStore.nodup_reset hm h.1
      dsimp only
      split
      · next hnone =>
        refine ⟨hnodup, fun other ↦ ?_⟩
        have hload := InMemoryCheckpointStore.load_reset_of_ok hm other
        rw [h.2 other]
        show _ = m.load other
        by_cases ho : other = slotName
        · rw [hload, if_pos ho, hnone.2, ho]
          exact hnone.1
        · rw [hload, if_neg ho, toInMemory_load]
      · exact fileReadsBack_writeLocked hnodup

theorem FileReadsBack.run {store : PersistentCheckpointStore} (h : store.FileReadsBack)
    (calls : List CheckpointCall) : (store.run (calls.map (·, .written))).2.FileReadsBack := by
  induction calls generalizing store with
  | nil => exact h
  | cons c cs ih => exact ih (h.call c)

end PersistentCheckpointStore

/-- While every write succeeds, the persistent store returns normally on the same calls as an
in-memory store holding the same dict, and loads the same position for every slot after them;
a store opened again on its file after any calls loads what it held; and the file read back gives
every slot the position written. -/
theorem checkpoint_stores_interchangeable :
    (∀ (store : PersistentCheckpointStore) (calls : List CheckpointCall),
      let r := store.run (calls.map (·, .written))
      r.1 = (store.toInMemory.run calls).1 ∧
        ∀ slotName, r.2.load slotName = (store.toInMemory.run calls).2.load slotName) ∧
    (∀ (file : Option String) (calls : List CheckpointCall) (slotName : String),
      let r := (PersistentCheckpointStore.create file).run (calls.map (·, .written))
      (PersistentCheckpointStore.create r.2.file).load slotName = r.2.load slotName) ∧
    (∀ positions : Positions, (positions.map Prod.fst).Nodup → ∀ slotName,
      (loadFromDisk (some (dumpPositions positions))).get slotName = positions.get slotName) := by
  refine ⟨fun store calls ↦ ?_, fun file calls ↦ ?_, loadFromDisk_dumpPositions⟩
  · obtain ⟨h1, h2⟩ := store.run_written calls
    exact ⟨h1, fun slotName ↦ by rw [← PersistentCheckpointStore.toInMemory_load, h2]⟩
  · exact ((PersistentCheckpointStore.fileReadsBack_create file).run calls).2

/-- Two slots written and read back. -/
theorem checkpoint_file_reads_back_two_slots :
    (([("uns_meta_slot", 100), ("other", -5)] : Positions).map Prod.fst).Nodup ∧
      (loadFromDisk (some (dumpPositions [("uns_meta_slot", 100), ("other", -5)]))).get "other" = some (-5) :=
  ⟨by decide, (checkpoint_stores_interchangeable.2.2 _ (by decide) "other").trans (by decide)⟩

/-! ## A write that raises

`save` and `reset` change the dict before `_write_locked` runs, and nothing undoes the change when
the write raises. -/

namespace PersistentCheckpointStore

/-- A save of a position not above the stored one returns at once. -/
theorem save_of_covered {store : PersistentCheckpointStore} {slotName : String} {lsn : Int}
    (h : (store.load slotName).any (lsn ≤ ·)) (outcome : WriteOutcome) :
    store.save slotName lsn outcome = (.ok (), store) :=
  if_pos h

theorem save_of_uncovered {store : PersistentCheckpointStore} {slotName : String} {lsn : Int}
    (h : ¬ (store.load slotName).any (lsn ≤ ·)) (outcome : WriteOutcome) :
    store.save slotName lsn outcome = writeLocked { store with positions := store.positions.set slotName lsn } outcome :=
  if_neg h

end PersistentCheckpointStore

open PersistentCheckpointStore in
/-- A save whose write raises before the replace raises and leaves the file as it was, but the
dict holds the new position; a save of the same position then returns at once without writing,
whatever the file system does, and a store opened on the file loads the old position.  A reset
that passes its guard does the same with its new dict.  A write that raises after the replace
has changed the file. -/
theorem failed_write_keeps_dict_change :
    (∀ (store : PersistentCheckpointStore) (slotName : String) (lsn : Int) (error : String),
      store.FileReadsBack → ¬ (store.load slotName).any (lsn ≤ ·) →
      let r := store.save slotName lsn (.failed error)
      r.1 = .error error ∧ r.2.file = store.file ∧ r.2.load slotName = some lsn ∧
        store.load slotName ≠ some lsn ∧ (∀ outcome, r.2.save slotName lsn outcome = (.ok (), r.2)) ∧
        (create r.2.file).load slotName = store.load slotName) ∧
    (∀ (store : PersistentCheckpointStore) (slotName : String) (expectedLsn newLsn : Option Int)
      (force : Bool) (error : String) (m : InMemoryCheckpointStore),
      store.toInMemory.reset slotName expectedLsn newLsn force = .ok m →
      ¬ (store.load slotName = none ∧ newLsn = none) →
      let r := store.reset slotName expectedLsn newLsn force (.failed error)
      r.1 = .error error ∧ r.2.file = store.file ∧ r.2.positions = m.positions) ∧
    (∀ (store : PersistentCheckpointStore) (slotName : String) (lsn : Int) (error : String),
      ¬ (store.load slotName).any (lsn ≤ ·) →
      let r := store.save slotName lsn (.failedAfterReplace error)
      r.1 = .error error ∧ r.2.file = some (dumpPositions r.2.positions)) := by
  refine ⟨fun store slotName lsn error hfile h ↦ ?_, fun store slotName expectedLsn newLsn force error m hm hwrite ↦ ?_,
    fun store slotName lsn error h ↦ by rw [save_of_uncovered h]; exact ⟨rfl, rfl⟩⟩
  · have hsaved : (store.save slotName lsn (.failed error)).2.load slotName = some lsn := by
      rw [save_of_uncovered h]
      exact Positions.get_set _ _ _
    refine ⟨by rw [save_of_uncovered h]; rfl, by rw [save_of_uncovered h]; rfl, hsaved, ?_,
      fun outcome ↦ save_of_covered (by rw [hsaved]; simp) outcome, ?_⟩
    · intro heq
      exact h (by rw [heq]; simp)
    · rw [save_of_uncovered h]
      exact hfile.2 slotName
  · rw [reset_eq, hm]
    dsimp only
    rw [if_neg hwrite]
    exact ⟨rfl, rfl, rfl⟩

/-- A first save of position 100 whose write fails on a full disk: the store loads 100, a store
opened on the file loads nothing. -/
theorem failed_first_save_lost_on_restart :
    let r := (PersistentCheckpointStore.create none).save "uns_meta_slot" 100
      (.failed "[Errno 28] No space left on device")
    r.2.load "uns_meta_slot" = some 100 ∧
      (PersistentCheckpointStore.create r.2.file).load "uns_meta_slot" = none :=
  have h := failed_write_keeps_dict_change.1 (PersistentCheckpointStore.create none) "uns_meta_slot" 100
    "[Errno 28] No space left on device" (PersistentCheckpointStore.fileReadsBack_create none) (by decide)
  ⟨h.2.2.1, h.2.2.2.2.2⟩

end UnsMetadataSync.Cdc.Checkpoint
