import Mathlib.Data.List.Basic
import ServiceContract.FileTree
import ServiceContract.Proofs.PathComponents
import ServiceContract.Proofs.Tables

/-!
# What a write changes in a file tree

A write in a tree puts bytes at one location, where its path leads, and makes directories on the way
there that were missing. Nothing else changes, and a write that fails changes no file.

## Results

* `entry?_put`            — putting an entry changes one location.
* `write_frame`           — a write changes its target, and makes directories on the way to it.
* `bytes?_write`          — after a write its target has the bytes, and other files have theirs.
* `Listed.mem_filePlaces` — the files below a directory, each once.
-/

namespace ServiceContract.FileTree

/-! ## Locations -/

/-- The location that components lead to. -/
def follow (here : Location) : List Component → Location
  | [] => here
  | .root :: rest => follow [] rest
  | .current :: rest => follow here rest
  | .parent :: rest => follow here.dropLast rest
  | .name name :: rest => follow (here ++ [name]) rest

/-- A way in two parts is followed one part after the other. If the second part starts at the root,
it leads where it would lead from anywhere. -/
theorem follow_append (here : Location) (way way' : List Component) :
    follow here (way ++ way') = follow (follow here way) way' := by
  induction way generalizing here with
  | nil => rfl
  | cons c rest ih => cases c <;> exact ih _

/-- Names lead down, one directory at a time. -/
@[simp] theorem follow_names (here : Location) (names : List String) :
    follow here (names.map .name) = here ++ names := by
  induction names generalizing here with
  | nil => exact (List.append_nil here).symm
  | cons name rest ih => rw [List.map_cons, follow, ih, List.append_assoc, List.singleton_append]

/-- The bytes of the file at a location. -/
def bytes? (t : FileTree) (place : Location) : Option (List UInt8) :=
  match t.entry? place with
  | some (.file bytes) => some bytes
  | _ => none

/-- A location has bytes if a file stands there. A directory has none. -/
theorem bytes?_eq_some {t : FileTree} {place : Location} {bytes : List UInt8} :
    t.bytes? place = some bytes ↔ t.entry? place = some (.file bytes) := by
  unfold bytes?
  cases t.entry? place with
  | none => simp
  | some e => cases e <;> simp

/-! ## Putting an entry -/

theorem lookup_filter_ne {β : Type} (entries : List (Location × β)) {place other : Location}
    (h : other ≠ place) :
    (entries.filter (·.1 != place)).lookup other = entries.lookup other := by
  induction entries with
  | nil => rfl
  | cons entry rest ih =>
    by_cases hentry : entry.1 = place
    · rw [List.filter_cons_of_neg (by simpa using hentry), ih, lookup_cons_ite,
        if_neg (hentry ▸ h)]
    · rw [List.filter_cons_of_pos (by simpa using hentry), lookup_cons_ite, lookup_cons_ite, ih]

/-- Putting an entry changes one location. It may not be the root, which is a directory and stays
one. -/
theorem entry?_put (t : FileTree) {place : Location} (hplace : place ≠ []) (e : Entry)
    (other : Location) :
    entry? (t.put place e) other = if other = place then some e else t.entry? other := by
  unfold entry? put
  split
  · next hempty =>
    rw [List.isEmpty_iff] at hempty
    rw [if_neg (by rw [hempty]; exact Ne.symm hplace)]
  · rw [List.lookup_append]
    split
    · next heq =>
      -- a former entry of the place was taken out, so the new one is found
      have hgone : (t.entries.filter (·.1 != place)).lookup other = none := by
        refine lookup_eq_none_of_not_mem fun hmem => ?_
        obtain ⟨entry, hentry, hkey⟩ := List.mem_map.mp hmem
        exact bne_iff_ne.mp (List.mem_filter.mp hentry).2 (hkey.trans heq)
      rw [hgone, Option.none_or, lookup_cons_ite, if_pos heq]
    · next hne =>
      rw [lookup_filter_ne _ hne, lookup_cons_ite, if_neg hne, List.lookup_nil, Option.or_none]

/-! ## Making directories -/

/-- The second tree has what the first has; besides that, it has directories at `new` locations. -/
def GrownBy (new : Location → Prop) (t t' : FileTree) : Prop :=
  ∀ place, t'.entry? place = t.entry? place ∨
    (new place ∧ t.entry? place = none ∧ t'.entry? place = some .directory)

theorem GrownBy.refl {new : Location → Prop} (t : FileTree) : GrownBy new t t :=
  fun _ => .inl rfl

/-- What grows twice has grown: a directory that was made first is there when the second step
comes. -/
theorem GrownBy.trans {new : Location → Prop} {t t' t'' : FileTree} (h : GrownBy new t t')
    (h' : GrownBy new t' t'') : GrownBy new t t'' := by
  intro place
  rcases h place with hsame | ⟨hnew, hnone, hdirectory⟩
  · rcases h' place with hsame' | ⟨hnew', hnone', hdirectory'⟩
    · exact .inl (hsame'.trans hsame)
    · exact .inr ⟨hnew', hsame ▸ hnone', hdirectory'⟩
  · rcases h' place with hsame' | ⟨-, hnone', -⟩
    · exact .inr ⟨hnew, hnone, hsame'.trans hdirectory⟩
    · rw [hdirectory] at hnone'
      cases hnone'

theorem GrownBy.mono {new new' : Location → Prop} {t t' : FileTree} (h : GrownBy new t t')
    (himp : ∀ place, new place → new' place) : GrownBy new' t t' := by
  intro place
  rcases h place with hsame | ⟨hnew, hrest⟩
  · exact .inl hsame
  · exact .inr ⟨himp place hnew, hrest⟩

/-- New directories change no file. -/
theorem GrownBy.bytes?_eq {new : Location → Prop} {t t' : FileTree} (h : GrownBy new t t')
    (place : Location) : t'.bytes? place = t.bytes? place := by
  unfold bytes?
  rcases h place with hsame | ⟨-, hnone, hdirectory⟩
  · rw [hsame]
  · rw [hnone, hdirectory]

theorem grownBy_put_directory {new : Location → Prop} {t : FileTree} {place : Location}
    (hplace : place ≠ []) (hnew : new place) (hnone : t.entry? place = none) :
    GrownBy new t (t.put place .directory) := by
  intro other
  rw [entry?_put t hplace]
  split
  · next heq => exact .inr ⟨heq ▸ hnew, heq ▸ hnone, rfl⟩
  · exact .inl rfl

/-- The locations that are passed on the way that components lead. -/
def Passed (here : Location) (way : List Component) (place : Location) : Prop :=
  ∃ part, part <+: way ∧ place = follow here part

/-- A way that begins with a step passes all that the rest of it passes from there. -/
theorem Passed.cons {here there : Location} {c : Component} {rest : List Component}
    {place : Location} (h : Passed there rest place) (hstep : follow here [c] = there) :
    Passed here (c :: rest) place := by
  obtain ⟨part, hpart, rfl⟩ := h
  refine ⟨c :: part, List.cons_prefix_cons.mpr ⟨rfl, hpart⟩, ?_⟩
  rw [← hstep, ← follow_append]
  rfl

/-- Making directories adds some on the way, and ends where the components lead. Directories that
were added stay even if something further on stands in the way; then there is no end. The induction
is on the way, and a slash at its start sends it to the root. -/
theorem makeDirectories_frame (t : FileTree) (here : Location) (way : List Component) :
    GrownBy (Passed here way) t (t.makeDirectories here way).1 ∧
      ∀ last, (t.makeDirectories here way).2 = some last → last = follow here way := by
  induction way generalizing t here with
  | nil =>
    refine ⟨.refl t, ?_⟩
    rintro last hlast
    cases hlast
    rfl
  | cons c rest ih =>
    -- what is passed from the next location on is passed from this one
    have step : ∀ (there : Location) (t : FileTree), follow here [c] = there →
        GrownBy (Passed here (c :: rest)) t (t.makeDirectories there rest).1 := by
      intro there t hstep
      exact (ih t there).1.mono fun place hplace => hplace.cons hstep
    cases c with
    | root => exact ⟨step [] t rfl, (ih t []).2⟩
    | current => exact ⟨step here t rfl, (ih t here).2⟩
    | parent => exact ⟨step here.dropLast t rfl, (ih t here.dropLast).2⟩
    | name name =>
      rw [makeDirectories]
      split
      · -- the directory is there already
        exact ⟨step _ t rfl, (ih t _).2⟩
      · exact ⟨.refl t, fun last hlast => nomatch hlast⟩
      · next hnone =>
        split
        · have hpassed : Passed here (.name name :: rest) (here ++ [name]) :=
            ⟨[.name name], List.cons_prefix_cons.mpr ⟨rfl, List.nil_prefix⟩, rfl⟩
          have hput := grownBy_put_directory (by simp) hpassed hnone
          exact ⟨hput.trans (step _ _ rfl), (ih _ _).2⟩
        · exact ⟨.refl t, fun last hlast => nomatch hlast⟩

/-- The directories that a path needs are those on the way that its components but the last lead. -/
theorem makeParent_frame (t : FileTree) (working : Location) (path : String) :
    GrownBy (Passed working (Path.components path).dropLast) t (t.makeParent working path).1 ∧
      ∀ last, (t.makeParent working path).2 = some last →
        last = follow working (Path.components path).dropLast := by
  rw [makeParent, Path.components_parent]
  split
  · exact makeDirectories_frame t working (Path.components path).dropLast
  · exact ⟨.refl t, fun last hlast => nomatch hlast⟩

/-! ## Writing -/

/-- What a write leaves: further directories on the way if it fails, and besides these the file
that the path leads to if it succeeds. -/
inductive Wrote (working : Location) (path : String) (bytes : List UInt8) (t : FileTree) :
    FileTree × Bool → Prop
  | failed {t' : FileTree} (grown : GrownBy (Passed working (Path.components path)) t t') :
      Wrote working path bytes t (t', false)
  | done {t' : FileTree} {way : List Component} {name : String}
      (split : Path.components path = way ++ [.name name])
      (grown : GrownBy (Passed working way) t t') :
      Wrote working path bytes t (t'.put (follow working way ++ [name]) (.file bytes), true)

/-- A write is one of the two: it fails after some directories were made, or it puts the file where
the path leads. It fails in the first way also if the path is only as a whole too long. -/
theorem write_wrote (t : FileTree) (working : Location) (path : String) (bytes : List UInt8) :
    Wrote working path bytes t (t.write working path bytes) := by
  have hway : ∀ place, Passed working (Path.components path).dropLast place →
      Passed working (Path.components path) place := by
    rintro place ⟨part, hpart, hplace⟩
    exact ⟨part, hpart.trans (List.dropLast_prefix _), hplace⟩
  obtain ⟨hgrown, hlast⟩ := makeParent_frame t working path
  rw [write]
  split
  · -- something stands in the way, or the parent itself is too long
    next t' hmade =>
    rw [hmade] at hgrown
    exact .failed (hgrown.mono hway)
  · next t' here hmade =>
    rw [hmade] at hgrown hlast
    obtain rfl : here = _ := hlast here rfl
    split
    · next name _ hname =>
      dsimp only
      split
      · -- the path names a file, and its directory is where the parent led
        have hsplit : Path.components path = (Path.components path).dropLast ++ [.name name] :=
          (List.dropLast_append_getLast? _ hname).symm
        exact .done hsplit hgrown
      · exact .failed (hgrown.mono hway)
    · exact .failed (hgrown.mono hway)

theorem bytes?_put (t : FileTree) {place : Location} (hplace : place ≠ []) (bytes : List UInt8)
    (other : Location) :
    (t.put place (.file bytes)).bytes? other =
      if other = place then some bytes else t.bytes? other := by
  unfold bytes?
  rw [entry?_put t hplace]
  by_cases hother : other = place
  · rw [if_pos hother, if_pos hother]
  · rw [if_neg hother, if_neg hother]

/-- A write changes its target, and makes directories on the way to it. Nothing else changes, be it
above the target or beside it, whether the write succeeds or fails. -/
theorem write_frame {t t' : FileTree} {working : Location} {path : String} {bytes : List UInt8}
    {written : Bool} (h : t.write working path bytes = (t', written)) {place : Location}
    (changed : t'.entry? place ≠ t.entry? place) :
    place = follow working (Path.components path) ∨
      (Passed working (Path.components path) place ∧ t.entry? place = none ∧
        t'.entry? place = some .directory) := by
  have hwrote := write_wrote t working path bytes
  rw [h] at hwrote
  cases hwrote with
  | failed grown => exact .inr ((grown place).resolve_left changed)
  | @done grown way name split hgrown =>
    rw [split, follow_append]
    by_cases htarget : place = follow working way ++ [name]
    · exact .inl htarget
    · rw [entry?_put _ (by simp), if_neg htarget] at changed ⊢
      obtain ⟨⟨part, hpart, hplace⟩, hrest⟩ := (hgrown place).resolve_left changed
      exact .inr ⟨⟨part, hpart.trans (List.prefix_append _ _), hplace⟩, hrest⟩

/-- After a write the file that its path leads to has the bytes, and the others have theirs. If the
write fails, all have theirs. -/
theorem bytes?_write {t t' : FileTree} {working : Location} {path : String} {bytes : List UInt8}
    {written : Bool} (h : t.write working path bytes = (t', written)) (place : Location) :
    t'.bytes? place =
      if written ∧ place = follow working (Path.components path) then some bytes
      else t.bytes? place := by
  have hwrote := write_wrote t working path bytes
  rw [h] at hwrote
  cases hwrote with
  | failed grown => rw [if_neg (by simp), grown.bytes?_eq]
  | @done grown way name split hgrown =>
    have htarget : follow working way ++ [name] = follow working (Path.components path) := by
      rw [split, follow_append]
      rfl
    rw [bytes?_put _ (by simp), hgrown.bytes?_eq, htarget]
    simp only [true_and]

/-! ## Trees whose entries can all be found -/

/-- Every location is listed once at most, and the root is not listed at all. -/
structure Listed (t : FileTree) : Prop where
  nodup : (t.entries.map (·.1)).Nodup
  ne_nil : ∀ entry ∈ t.entries, entry.1 ≠ []

/-- An entry that is put takes the place of a former one, so no location is listed twice. -/
theorem Listed.put {t : FileTree} (h : t.Listed) {place : Location} (hplace : place ≠ [])
    (e : Entry) : (t.put place e).Listed := by
  constructor
  · unfold FileTree.put
    rw [List.map_append, List.nodup_append]
    refine ⟨h.nodup.sublist (List.filter_sublist.map _), List.pairwise_singleton _ _, ?_⟩
    -- what is left of the former entries has none of this place
    rintro a ha b hb rfl
    obtain ⟨entry, hentry, rfl⟩ := List.mem_map.mp ha
    rw [List.map_cons, List.map_nil, List.mem_singleton] at hb
    exact bne_iff_ne.mp (List.mem_filter.mp hentry).2 hb
  · intro entry hentry
    rcases List.mem_append.mp hentry with hold | hnew
    · exact h.ne_nil entry (List.mem_filter.mp hold).1
    · rw [List.mem_singleton.mp hnew]
      exact hplace

/-- Directories that are made keep the listing sound: each is put where nothing stood, and never at
the root. -/
theorem Listed.makeDirectories {t : FileTree} (h : t.Listed) (here : Location)
    (way : List Component) : (t.makeDirectories here way).1.Listed := by
  induction way generalizing t here with
  | nil => exact h
  | cons c rest ih =>
    cases c with
    | root => exact ih h []
    | current => exact ih h here
    | parent => exact ih h here.dropLast
    | name name =>
      rw [FileTree.makeDirectories]
      split
      · exact ih h _
      · exact h
      · split
        · exact ih (h.put (by simp) _) _
        · exact h

theorem Listed.makeParent {t : FileTree} (h : t.Listed) (working : Location) (path : String) :
    (t.makeParent working path).1.Listed := by
  rw [FileTree.makeParent]
  split
  · exact h.makeDirectories working _
  · exact h

/-- A write keeps the listing sound, whether it succeeds or fails. -/
theorem Listed.write {t : FileTree} (h : t.Listed) (working : Location) (path : String)
    (bytes : List UInt8) : (t.write working path bytes).1.Listed := by
  have hmade := h.makeParent working path
  rw [FileTree.write]
  split
  · -- the directories that were made before the failure stay
    next hfailed =>
    rw [hfailed] at hmade
    exact hmade
  · next hreached =>
    rw [hreached] at hmade
    split
    · dsimp only
      split
      · exact hmade.put (by simp) _
      · exact hmade
    · exact hmade

/-! ## Files below a directory -/

/-- Whether an entry is a file below a directory. -/
def isFileBelow (below : Location) : Location × Entry → Bool
  | (place, .file _) => below.isPrefixOf place
  | (_, .directory) => false

/-- Where the files below a directory are. -/
def filePlaces (t : FileTree) (below : Location) : List Location :=
  (t.entries.filter (isFileBelow below)).map (·.1)

theorem length_files (t : FileTree) (below : Location) :
    (t.files below).length = (t.filePlaces below).length := by
  rw [files, filePlaces, List.length_map, List.length_filterMap_eq_countP,
    List.countP_eq_length_filter]
  refine congrArg List.length (List.filter_congr fun entry _ => ?_)
  obtain ⟨place, e⟩ := entry
  cases e with
  | directory => rfl
  | file bytes =>
    by_cases hbelow : below.isPrefixOf place
    · simp [isFileBelow, hbelow]
    · simp [isFileBelow, hbelow]

theorem Listed.nodup_filePlaces {t : FileTree} (h : t.Listed) (below : Location) :
    (t.filePlaces below).Nodup :=
  h.nodup.sublist (List.filter_sublist.map _)

/-- Every entry of a sound listing can be found, since no other stands in front of it. -/
theorem Listed.mem_entries_iff {t : FileTree} (h : t.Listed) {place : Location}
    {bytes : List UInt8} : (place, .file bytes) ∈ t.entries ↔ t.bytes? place = some bytes := by
  rw [bytes?_eq_some, entry?]
  split
  · next hempty =>
    rw [List.isEmpty_iff] at hempty
    refine ⟨fun hmem => absurd hempty (h.ne_nil _ hmem), fun hfile => ?_⟩
    cases hfile
  · exact mem_iff_lookup h.nodup

/-- The files below a directory are at the locations below it that have bytes, each listed once. -/
theorem Listed.mem_filePlaces {t : FileTree} (h : t.Listed) {below place : Location} :
    place ∈ t.filePlaces below ↔ below <+: place ∧ ∃ bytes, t.bytes? place = some bytes := by
  constructor
  · intro hmem
    obtain ⟨⟨_, e⟩, he, rfl⟩ := List.mem_map.mp hmem
    obtain ⟨hlisted, hbelow⟩ := List.mem_filter.mp he
    cases e with
    | directory => cases hbelow
    | file bytes =>
      -- an entry that is listed can be found, since its place is listed once
      exact ⟨List.isPrefixOf_iff_prefix.mp hbelow, bytes, h.mem_entries_iff.mp hlisted⟩
  · rintro ⟨hbelow, bytes, hbytes⟩
    have hlisted := h.mem_entries_iff.mpr hbytes
    exact List.mem_map.mpr ⟨_, List.mem_filter.mpr
      ⟨hlisted, List.isPrefixOf_iff_prefix.mpr hbelow⟩, rfl⟩

end ServiceContract.FileTree
