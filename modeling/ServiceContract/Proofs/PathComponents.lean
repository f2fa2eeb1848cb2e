import ServiceContract.Path

/-!
# Joined and contained paths

A path is read by its components, and joining puts the components of two paths one after the other,
whatever slashes there are at the seam. What a contained path adds is a way of plain names. A path
is not contained exactly if its text is empty, starts with a slash, has a single dot before its
first slash, or two dots between any two.

## Results

* `not_isContained_iff` — the texts of the paths that are not contained.
* `components_parent`   — the parent of a path has its components but the last.
* `components_join`     — a contained path adds its components to those of the root.
* `isFileStem_iff`      — a name can be that of a file if it is plain and has no backslash.
-/

namespace ServiceContract.Path

/-- A name that leads to an entry of a directory: it is neither the directory itself nor the one
above, and it is one name. -/
structure IsPlain (name : String) : Prop where
  ne_empty : name ≠ ""
  ne_current : name ≠ "."
  ne_parent : name ≠ ".."
  slash_notMem : '/' ∉ name.toList

/-- The texts of paths that would not lead below the directory they are joined to. -/
inductive Escapes (path : String) : Prop where
  | empty (h : path = "")
  | absolute (h : path.toList.head? = some '/')
  | current (h : (Text.pieces '/' path.toList).head? = some ['.'])
  | parent (h : ['.', '.'] ∈ Text.pieces '/' path.toList)

/-- The components that a path adds to the one it is joined to. -/
def added (path : String) : List Component :=
  (Text.pieces '/' path.toList).filterMap (component? false)

/-! ## Segments -/

theorem toList_eq_of_ofList_eq {segment : List Char} {name : String}
    (h : String.ofList segment = name) : segment = name.toList := by
  rw [← h, String.toList_ofList]

/-- A plain name stands for itself, at the start of a path as well as later. -/
theorem component?_of_plain {name : String} (h : IsPlain name) (first : Bool) :
    component? first name.toList = some (.name name) := by
  have hempty : name.toList ≠ [] := by simpa using h.ne_empty
  have hcurrent : name.toList ≠ ['.'] := fun hc => h.ne_current (String.toList_inj.mp hc)
  have hparent : name.toList ≠ ['.', '.'] := fun hp => h.ne_parent (String.toList_inj.mp hp)
  rw [component?, if_neg hempty, if_neg hcurrent, if_neg hparent, String.ofList_toList]

/-- The names among the components of a path are plain. -/
theorem isPlain_of_component? {first : Bool} {segment : List Char} {name : String}
    (hslash : '/' ∉ segment) (h : component? first segment = some (.name name)) : IsPlain name := by
  unfold component? at h
  split at h
  · cases h
  · next hempty =>
    split at h
    · split at h <;> cases h
    · next hcurrent =>
      split at h
      · cases h
      · next hparent =>
        -- what is left is a name: the segment itself, which is none of the three texts before
        cases h
        refine ⟨?_, ?_, ?_, by rwa [String.toList_ofList]⟩
        · exact fun hname => hempty (toList_eq_of_ofList_eq hname)
        · exact fun hname => hcurrent (toList_eq_of_ofList_eq hname)
        · exact fun hname => hparent (toList_eq_of_ofList_eq hname)

/-- A segment is two dots, or it stands for a name at most, unless it is a dot that starts a
path. -/
theorem isName_of_component? {first : Bool} {segment : List Char} {c : Component}
    (hcurrent : first → segment ≠ ['.']) (hparent : segment ≠ ['.', '.'])
    (h : component? first segment = some c) : c.isName := by
  unfold component? at h
  split at h
  · cases h
  · split at h
    · next hdot =>
      split at h
      · next hfirst => exact absurd hdot (hcurrent hfirst)
      · cases h
    · cases h
      rfl

/-! ## Contained paths -/

/-- A path is absolute if its first character is a slash. -/
theorem isAbsolute_iff {path : String} :
    isAbsolute path = true ↔ path.toList.head? = some '/' := by
  rw [isAbsolute]
  cases path.toList with
  | nil => decide
  | cons c rest =>
    simp only [List.isPrefixOf, Bool.and_true, beq_iff_eq, List.head?_cons, Option.some.injEq]
    exact eq_comm

/-- The first segment of a path is empty if the path is or starts at the root, and only then. -/
theorem head?_pieces_eq_nil_iff {path : String} :
    (Text.pieces '/' path.toList).head? = some [] ↔ path = "" ∨ isAbsolute path := by
  rw [isAbsolute_iff, ← String.toList_eq_nil_iff]
  cases path.toList with
  | nil => simp [Text.pieces]
  | cons c rest =>
    by_cases hc : c = '/'
    · simp [Text.pieces, hc]
    · rw [Text.pieces, if_neg hc]
      cases Text.pieces '/' rest <;> simp [hc]

/-- The components of a path, segment by segment. The first one counts differently: it may be the
root, or a dot that is kept. -/
theorem components_eq {path : String} {first : List Char} {later : List (List Char)}
    (h : Text.pieces '/' path.toList = first :: later) :
    components path =
      (if isAbsolute path then [.root] else (component? true first).toList)
        ++ later.filterMap (component? false) := by
  rw [components, h]

/-- What a path adds, segment by segment, with no segment told apart. -/
theorem added_eq {path : String} {first : List Char} {later : List (List Char)}
    (h : Text.pieces '/' path.toList = first :: later) :
    added path = (component? false first).toList ++ later.filterMap (component? false) := by
  rw [added, h, List.filterMap_cons]
  cases component? false first <;> rfl

theorem not_isAbsolute_of_not_escapes {path : String} (h : ¬ Escapes path) :
    isAbsolute path = false := by
  rw [Bool.eq_false_iff]
  exact fun ha => h (.absolute (isAbsolute_iff.mp ha))

/-- A path that does not escape has only names for components, and adds them when joined. -/
theorem components_of_not_escapes {path : String} (h : ¬ Escapes path) :
    components path = added path ∧ added path ≠ [] ∧ ∀ c ∈ added path, c.isName := by
  have habsolute := not_isAbsolute_of_not_escapes h
  obtain ⟨first, later, hpieces⟩ := List.exists_cons_of_ne_nil (Text.pieces_ne_nil '/' path.toList)
  have hparent : ∀ segment ∈ first :: later, segment ≠ ['.', '.'] := by
    rintro segment hmem rfl
    exact h (.parent (hpieces ▸ hmem))
  have hcurrent : first ≠ ['.'] := by
    rintro rfl
    exact h (.current (by rw [hpieces]; rfl))
  have hempty : first ≠ [] := by
    rintro rfl
    rcases head?_pieces_eq_nil_iff.mp (by rw [hpieces]; rfl) with hpath | ha
    · exact h (.empty hpath)
    · rw [habsolute] at ha
      cases ha
  -- so the first segment is a name, whether it starts a path or not
  have hfirst : ∀ start, component? start first = some (.name (String.ofList first)) := by
    intro start
    rw [component?, if_neg hempty, if_neg hcurrent, if_neg (hparent first List.mem_cons_self)]
  refine ⟨?_, ?_, ?_⟩
  · rw [components_eq hpieces, added_eq hpieces, habsolute, hfirst true, hfirst false]
    rfl
  · rw [added_eq hpieces, hfirst false]
    exact List.cons_ne_nil _ _
  · intro c hc
    rw [added, hpieces] at hc
    obtain ⟨segment, hmem, hc⟩ := List.mem_filterMap.mp hc
    have hstart : false = true → segment ≠ ['.'] := fun hfalse => nomatch hfalse
    exact isName_of_component? hstart (hparent segment hmem) hc

/-- A path that escapes has no components, or one that is no name. -/
theorem not_name_of_escapes {path : String} (h : Escapes path) :
    components path = [] ∨ ∃ c ∈ components path, c.isName = false := by
  obtain ⟨first, later, hpieces⟩ := List.exists_cons_of_ne_nil (Text.pieces_ne_nil '/' path.toList)
  rw [components_eq hpieces]
  by_cases habsolute : isAbsolute path
  · exact .inr ⟨.root, by simp [habsolute], rfl⟩
  · rw [if_neg habsolute]
    cases h with
    | empty hpath =>
      subst hpath
      cases hpieces
      exact .inl rfl
    | absolute ha => exact absurd (isAbsolute_iff.mpr ha) habsolute
    | current hc =>
      rw [hpieces] at hc
      cases hc
      exact .inr ⟨.current, List.mem_append_left _ (by decide), rfl⟩
    | parent hp =>
      -- two dots mean the same at the start of a path and later on
      rw [hpieces] at hp
      refine .inr ⟨.parent, ?_, rfl⟩
      rcases List.mem_cons.mp hp with rfl | hlater
      · exact List.mem_append_left _ (by decide)
      · exact List.mem_append_right _ (List.mem_filterMap.mpr ⟨_, hlater, by decide⟩)

/-- The texts of the paths that are not contained. -/
theorem not_isContained_iff {path : String} : isContained path = false ↔ Escapes path := by
  constructor
  · intro h
    refine Classical.byContradiction fun hescapes => ?_
    obtain ⟨hcomponents, hne, hnames⟩ := components_of_not_escapes hescapes
    rw [isContained, hcomponents, List.all_eq_true.mpr hnames, Bool.and_true] at h
    simp [hne] at h
  · intro h
    rcases not_name_of_escapes h with hnil | ⟨c, hc, hname⟩
    · rw [isContained, hnil]
      rfl
    · have hall : (components path).all Component.isName = false := by
        rw [List.all_eq_false]
        exact ⟨c, hc, by simp [hname]⟩
      rw [isContained, hall, Bool.and_false]

example : ["", "/a", "./a", "a/../b", "a/./b//c/", ".a/..b"].map isContained =
    [false, false, false, false, true, true] := by decide

theorem isContained_iff {path : String} : isContained path = true ↔ ¬ Escapes path := by
  rw [← not_isContained_iff, Bool.not_eq_false]

theorem isPlain_of_mem_added {path name : String} (h : .name name ∈ added path) :
    IsPlain name := by
  obtain ⟨segment, hmem, hname⟩ := List.mem_filterMap.mp h
  exact isPlain_of_component? (Text.separator_notMem hmem) hname

theorem exists_names {way : List Component} (h : ∀ c ∈ way, c.isName) :
    ∃ names : List String, way = names.map .name := by
  induction way with
  | nil => exact ⟨[], rfl⟩
  | cons c rest ih =>
    obtain ⟨names, rfl⟩ := ih fun d hd => h d (List.mem_cons_of_mem _ hd)
    cases c with
    | name text => exact ⟨text :: names, rfl⟩
    | root | current | parent => exact nomatch h _ List.mem_cons_self

/-- A contained path is a way of plain names. -/
theorem exists_names_of_isContained {path : String} (h : isContained path) :
    ∃ names : List String, names ≠ [] ∧ (∀ name ∈ names, IsPlain name) ∧
      components path = names.map .name := by
  obtain ⟨hcomponents, hne, hall⟩ := components_of_not_escapes (isContained_iff.mp h)
  obtain ⟨names, hnames⟩ := exists_names hall
  refine ⟨names, ?_, ?_, hcomponents.trans hnames⟩
  · rintro rfl
    exact hne hnames
  · intro name hname
    have hmem : Component.name name ∈ added path := by
      rw [hnames]
      exact List.mem_map_of_mem hname
    exact isPlain_of_mem_added hmem

/-! ## Parents -/

/-- The segments dropped at the end of a list stand for no component. -/
theorem filterMap_upToLast (segments : List (List Char)) :
    (upToLast segments).filterMap (component? false) = segments.filterMap (component? false) := by
  induction segments with
  | nil => rfl
  | cons segment later ih =>
    rw [List.filterMap_cons, ← ih]
    cases hlast : upToLast later with
    | cons next rest => simp only [upToLast, hlast, List.filterMap_cons]
    | nil =>
      cases hsegment : component? false segment with
      | none => simp [upToLast, hlast, hsegment]
      | some c => simp [upToLast, hlast, hsegment]

/-- What is left of the segments is nothing, or it ends with one that stands for a component. -/
theorem upToLast_cases (segments : List (List Char)) :
    upToLast segments = [] ∨ ∃ above segment c,
      upToLast segments = above ++ [segment] ∧ component? false segment = some c := by
  induction segments with
  | nil => exact .inl rfl
  | cons segment later ih =>
    rcases ih with hnone | ⟨above, last, c, hkept, hlast⟩
    · -- nothing further on stands for a component, so this segment decides
      cases hsegment : component? false segment with
      | none => exact .inl (by simp [upToLast, hnone, hsegment])
      | some c => exact .inr ⟨[], segment, c, by simp [upToLast, hnone, hsegment], hsegment⟩
    · refine .inr ⟨segment :: above, last, c, ?_, hlast⟩
      rw [upToLast, hkept]
      split
      · next hempty => exact absurd hempty (by simp)
      · rfl

theorem mem_of_mem_upToLast {segments : List (List Char)} {segment : List Char}
    (h : segment ∈ upToLast segments) : segment ∈ segments := by
  induction segments with
  | nil => exact h
  | cons first later ih =>
    rw [upToLast] at h
    split at h
    · split at h
      · exact List.mem_cons.mpr (.inl (List.mem_singleton.mp h))
      · exact absurd h List.not_mem_nil
    · exact (List.mem_cons.mp h).elim (fun heq => heq ▸ List.mem_cons_self)
        fun hlater => List.mem_cons_of_mem _ (ih hlater)

/-- Of several segments an empty first one stands for the root. -/
theorem components_of_pieces {path : String} {first : List Char} {later : List (List Char)}
    (hpieces : Text.pieces '/' path.toList = first :: later) (hlater : later ≠ []) :
    components path =
      (if first = [] then [.root] else (component? true first).toList)
        ++ later.filterMap (component? false) := by
  have hne : path ≠ "" := by
    rintro rfl
    exact hlater (List.cons.inj hpieces).2.symm
  have habsolute : isAbsolute path ↔ first = [] := by
    have hhead : (Text.pieces '/' path.toList).head? = some [] ↔ path = "" ∨ isAbsolute path :=
      head?_pieces_eq_nil_iff
    rw [hpieces, List.head?_cons, Option.some.injEq, or_iff_right hne] at hhead
    exact hhead.symm
  rw [components_eq hpieces]
  simp only [habsolute]

/-- A text without slashes is one component at most, and is no absolute path. -/
theorem components_of_single {segment : List Char} (hslash : '/' ∉ segment) :
    components (String.ofList segment) = (component? true segment).toList := by
  have hpieces : Text.pieces '/' (String.ofList segment).toList = [segment] := by
    rw [String.toList_ofList]
    exact Text.pieces_of_notMem hslash
  have habsolute : ¬ isAbsolute (String.ofList segment) := by
    intro h
    rw [isAbsolute_iff, String.toList_ofList] at h
    exact hslash (List.mem_of_mem_head? h)
  rw [components_eq hpieces, if_neg habsolute, List.filterMap_nil, List.append_nil]

/-- The parent of a path has the components of the path but the last, whatever slashes and dots
there are between them. So the directories that a write makes are those that its target needs. -/
theorem components_parent (path : String) :
    components (parent path) = (components path).dropLast := by
  obtain ⟨first, later, hpieces⟩ := List.exists_cons_of_ne_nil (Text.pieces_ne_nil '/' path.toList)
  have hplain : ∀ segment ∈ first :: later, '/' ∉ segment :=
    fun segment hmem => Text.separator_notMem (hpieces ▸ hmem)
  rcases upToLast_cases later with hnone | ⟨above, segment, c, hkept, hsegment⟩
  · -- the path has one component at most, the one it starts with
    have hlater : later.filterMap (component? false) = [] := by
      rw [← filterMap_upToLast, hnone]
      rfl
    have hparent : parent path = "" := by simp only [parent, hpieces, hnone, if_true]
    rw [hparent, components_eq hpieces, hlater, List.append_nil]
    split
    · rfl
    · cases component? true first <;> rfl
  · have hne : later ≠ [] := by
      rintro rfl
      cases above <;> cases hkept
    have hlater : later.filterMap (component? false) =
        (upToLast above).filterMap (component? false) ++ [c] := by
      rw [← filterMap_upToLast later, hkept, List.filterMap_append, filterMap_upToLast]
      simp only [List.filterMap_cons, hsegment, List.filterMap_nil]
    have hsome : above ++ [segment] ≠ [] := List.append_ne_nil_of_right_ne_nil _ (by simp)
    rw [components_of_pieces hpieces hne, hlater, ← List.append_assoc, List.dropLast_concat]
    cases habove : upToLast above with
    | nil =>
      simp only [parent, hpieces, hkept, if_neg hsome, List.dropLast_concat, habove,
        List.filterMap_nil, List.append_nil]
      split
      · rfl
      · exact components_of_single (hplain first List.mem_cons_self)
    | cons next rest =>
      -- the segments that are joined are those of the text
      have hjoined : Text.pieces '/'
          (String.ofList (['/'].intercalate (first :: next :: rest))).toList =
            first :: next :: rest := by
        rw [String.toList_ofList]
        refine Text.pieces_intercalate (List.cons_ne_nil _ _) (List.forall_mem_cons.mpr ⟨?_, ?_⟩)
        · exact hplain first List.mem_cons_self
        · intro segment hmem
          have hkeptMem : segment ∈ upToLast later := by
            rw [hkept]
            exact List.mem_append_left _ (mem_of_mem_upToLast (habove ▸ hmem))
          exact hplain segment (List.mem_cons_of_mem _ (mem_of_mem_upToLast hkeptMem))
      simp only [parent, hpieces, hkept, if_neg hsome, List.dropLast_concat, habove]
      exact components_of_pieces hjoined (List.cons_ne_nil _ _)

/-! ## Joining -/

/-- A slash in front makes a path absolute, and its first segment one like the others. -/
theorem components_slash (path : String) : components ("/" ++ path) = .root :: added path := by
  have hlist : ("/" ++ path).toList = '/' :: path.toList := by rw [String.toList_append]; rfl
  have hpieces : Text.pieces '/' ("/" ++ path).toList = [] :: Text.pieces '/' path.toList := by
    rw [hlist, Text.pieces, if_pos rfl]
  have habsolute : isAbsolute ("/" ++ path) := isAbsolute_iff.mpr (by rw [hlist]; rfl)
  rw [components_eq hpieces, if_pos habsolute]
  rfl

/-- A slash between two paths puts their components in a row. The first must not be empty, or the
slash would be the root. -/
theorem components_append_slash {root : String} (hroot : root ≠ "") (path : String) :
    components (root ++ "/" ++ path) = components root ++ added path := by
  have hlist : (root ++ "/" ++ path).toList = root.toList ++ '/' :: path.toList := by
    rw [String.toList_append, String.toList_append, List.append_assoc]
    rfl
  obtain ⟨first, later, hpieces⟩ := List.exists_cons_of_ne_nil (Text.pieces_ne_nil '/' root.toList)
  have hjoined : Text.pieces '/' (root ++ "/" ++ path).toList =
      first :: (later ++ Text.pieces '/' path.toList) := by
    rw [hlist, Text.pieces_append_cons, hpieces, List.cons_append]
  -- the text starts as the root does, so it is absolute exactly if the root is
  have habsolute : isAbsolute (root ++ "/" ++ path) = isAbsolute root := by
    rw [Bool.eq_iff_iff, isAbsolute_iff, isAbsolute_iff, hlist]
    have hne : root.toList ≠ [] := by simpa using hroot
    rw [List.head?_append, List.head?_eq_some_head hne, Option.some_or]
  rw [components_eq hjoined, components_eq hpieces, habsolute, List.filterMap_append,
    List.append_assoc]
  rfl

/-- A contained path adds its components to those of the root. -/
theorem components_join (root : String) {path : String} (h : isContained path) :
    components (join root path) = components root ++ components path := by
  have hescapes := isContained_iff.mp h
  obtain ⟨hadded, -⟩ := components_of_not_escapes hescapes
  rw [hadded, join, not_isAbsolute_of_not_escapes hescapes, Bool.false_or]
  split
  · next hroot =>
    rw [String.isEmpty_iff] at hroot
    rw [hroot, hadded]
    rfl
  · next hroot =>
    rw [String.isEmpty_iff] at hroot
    split
    · next hslash =>
      -- the slash at the end of the root is the seam
      obtain ⟨front, hfront⟩ := List.isSuffixOf_iff_suffix.mp hslash
      have hsplit : root = String.ofList front ++ "/" := by
        rw [← String.toList_inj, String.toList_append, String.toList_ofList, ← hfront]
        rfl
      by_cases hempty : String.ofList front = ""
      · rw [hempty, String.empty_append] at hsplit
        rw [hsplit, components_slash]
        rfl
      · -- the root alone is what is joined to the empty path
        have halone := components_append_slash hempty ""
        rw [String.append_empty, ← hsplit, show added "" = [] from rfl, List.append_nil] at halone
        rw [halone, hsplit, components_append_slash hempty]
    · exact components_append_slash hroot path

example : components (join "out//" "a/./b") = [.name "out", .name "a", .name "b"] := by decide

/-! ## Single names -/

/-- A plain name is a path of one component. -/
theorem components_of_plain {name : String} (h : IsPlain name) :
    components name = [.name name] := by
  -- without slashes there is one segment
  have hpieces := Text.pieces_of_notMem h.slash_notMem
  have habsolute : isAbsolute name = false := by
    rw [Bool.eq_false_iff]
    exact fun ha => h.slash_notMem (List.mem_of_mem_head? (isAbsolute_iff.mp ha))
  rw [components_eq hpieces, habsolute, component?_of_plain h]
  rfl

theorem isContained_of_plain {name : String} (h : IsPlain name) : isContained name := by
  rw [isContained, components_of_plain h]
  rfl

/-- A name can be that of a file if it is plain and has no backslash. -/
theorem isFileStem_iff {name : String} :
    isFileStem name = true ↔ IsPlain name ∧ '\\' ∉ name.toList := by
  simp only [isFileStem, Bool.and_eq_true, Bool.not_eq_true', List.contains_eq_mem,
    decide_eq_false_iff_not]
  constructor
  · rintro ⟨⟨hslash, hbackslash⟩, hcontained⟩
    -- a contained text without a slash is one name, since the special texts escape
    have hescapes := isContained_iff.mp hcontained
    refine ⟨⟨fun h => hescapes (.empty h), ?_, ?_, hslash⟩, hbackslash⟩
    · rintro rfl
      exact hescapes (.current rfl)
    · rintro rfl
      exact hescapes (.parent (by decide))
  · rintro ⟨hplain, hbackslash⟩
    exact ⟨⟨hplain.slash_notMem, hbackslash⟩, isContained_of_plain hplain⟩

/-- A plain name stays plain with a suffix that has no slash, if it gets longer than two dots. -/
theorem IsPlain.append {name suffix : String} (h : IsPlain name) (hsuffix : '/' ∉ suffix.toList)
    (hlength : 2 ≤ suffix.length) : IsPlain (name ++ suffix) := by
  have hname : name.length ≠ 0 := by
    rw [Ne, String.length_eq_zero_iff]
    exact h.ne_empty
  have hlong : ∀ short : String, short.length ≤ 2 → name ++ suffix ≠ short := by
    rintro short hshort rfl
    rw [String.length_append] at hshort
    omega
  refine ⟨hlong "" (by decide), hlong "." (by decide), hlong ".." (by decide), ?_⟩
  rw [String.toList_append, List.mem_append]
  exact fun hslash => hslash.elim h.slash_notMem hsuffix

end ServiceContract.Path
