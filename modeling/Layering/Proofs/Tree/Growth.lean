import Layering.Proofs.Discovery.Exactness

/-! A tree to which files are added. What was there stays where it was, and paths lead there as before, unless they end
at a file that is new. -/
namespace Layering

namespace Tree

theorem isFile_eq (t : Tree) : t.isFile = t.bytes?.isSome := by cases t <;> rfl

theorem holdsAt_isFile_eq (t : Tree) (p : Path) : t.holdsAt p isFile = (t.bytesAt? p).isSome := by
  rw [holdsAt, bytesAt?]
  cases t.locate p with
  | error e => rfl
  | ok spot => exact isFile_eq spot.here

theorem bytes?_eq_some {t : Tree} {bytes : ByteArray} : t.bytes? = some bytes ↔ t = .file bytes := by
  cases t <;> simp [bytes?]

/-- The second tree has all that the first one has, and files at some places where the first one has nothing. -/
structure Grows (added : List String → Prop) (t t' : Tree) : Prop where
  missing : ∀ way, added way → t.below? way = none
  file : ∀ way, added way → ∃ bytes, t'.below? way = some (.file bytes)
  same : ∀ way, ¬added way → (t.below? way).map bytes? = (t'.below? way).map bytes?

section Put

variable {t node : Tree} {name : String} {way : List String} {entries : List (String × Tree)} {bytes : ByteArray}

theorem entry?_put (t node : Tree) (name : String) (way : List String) :
    entry? (t.put node (name :: way)) name = some (((t.entry? name).getD (directory [])).put node way) := by
  simp [put, entry?, Tree.entries]

theorem entry?_put_of_ne {other : String} (apart : other ≠ name) :
    entry? (t.put node (name :: way)) other = t.entry? other := by
  have passed : (other == name) = false := by simpa using apart
  simp only [put, entry?, Tree.entries, List.lookup_cons, passed, lookup_filter apart]

theorem below?_put (t node : Tree) (way : List String) : (t.put node way).below? way = some node := by
  induction way generalizing t with
  | nil => rfl
  | cons name way ih => rw [below?, entry?_put, Option.bind_some, ih]

theorem below?_file (bytes : ByteArray) (name : String) (way : List String) :
    (file bytes).below? (name :: way) = none := rfl

theorem bytes?_below?_put {other : List String} (there : t.below? way = some (.directory entries))
    (missing : entries.lookup name = none) (apart : other ≠ way ++ [name]) :
    (t.below? other).map Tree.bytes? = ((t.put (.file bytes) (way ++ [name])).below? other).map Tree.bytes? := by
  induction way generalizing t other with
  | nil =>
    obtain rfl := Option.some.inj there
    cases other with
    | nil => rfl
    | cons first rest =>
      by_cases here : first = name
      · obtain ⟨next, rest, rfl⟩ : ∃ next more, rest = next :: more :=
          List.exists_cons_of_ne_nil fun last => apart (by rw [here, last, List.nil_append])
        rw [here, below?, below?, List.nil_append, entry?_put, Option.bind_some, put, below?_file, entry?]
        simp [Tree.entries, missing]
      · rw [below?, below?, List.nil_append, entry?_put_of_ne here]
  | cons step way ih =>
    obtain ⟨child, first, later⟩ := Option.bind_eq_some_iff.mp there
    cases other with
    | nil =>
      cases t with
      | file bytes => cases first
      | directory entries => rfl
    | cons first' rest =>
      by_cases here : first' = step
      · have apart' : rest ≠ way ++ [name] := fun last => apart (by rw [here, last, List.cons_append])
        have on := ih later apart'
        rw [here, below?, below?, List.cons_append, entry?_put, first, Option.bind_some, Option.bind_some, on,
          Option.getD_some]
      · rw [below?, below?, List.cons_append, entry?_put_of_ne here]

/-- A file is added to a directory that has no entry of its name. -/
theorem grows_put (there : t.below? way = some (.directory entries)) (missing : entries.lookup name = none)
    (bytes : ByteArray) : Grows (· = way ++ [name]) t (t.put (.file bytes) (way ++ [name])) where
  missing := by
    rintro _ rfl
    rw [below?_append, there, Option.bind_some, below?, entry?, Tree.entries, missing, Option.bind_none]
  file := by
    rintro _ rfl
    exact ⟨bytes, below?_put t _ _⟩
  same _ apart := bytes?_below?_put there missing apart

theorem Distinct.put {t node : Tree} (distinct : t.Distinct) (distinct' : node.Distinct) (way : List String) :
    (t.put node way).Distinct := by
  induction way generalizing t with
  | nil => exact distinct'
  | cons name way ih =>
    obtain ⟨names, inside⟩ : (t.entries.map (·.1)).Nodup ∧ ∀ entry ∈ t.entries, entry.2.Distinct := by
      cases t with
      | file bytes => exact ⟨List.nodup_nil, nofun⟩
      | directory entries => exact distinct_directory.mp distinct
    have next : ((t.entry? name).getD (Tree.directory [])).Distinct := by
      cases found : t.entry? name with
      | none => exact .directory List.nodup_nil nofun
      | some entry => exact inside _ ((Policy.lookup_eq_some_iff names).mp found)
    refine distinct_directory.mpr ⟨List.nodup_cons.mpr ⟨?_, names.sublist (List.filter_sublist.map _)⟩, ?_⟩
    · simp
    · refine List.forall_mem_cons.mpr ⟨ih next, fun entry listed => inside entry (List.mem_of_mem_filter listed)⟩

theorem WellNamed.put {t node : Tree} (named : t.WellNamed) (named' : node.WellNamed) {way : List String}
    (proper : ∀ name ∈ way, Path.IsName name) : (t.put node way).WellNamed := by
  induction way generalizing t with
  | nil => exact named'
  | cons name way ih =>
    obtain ⟨first, later⟩ := List.forall_mem_cons.mp proper
    obtain ⟨names, inside⟩ :
        (∀ entry ∈ t.entries, Path.IsName entry.1) ∧ ∀ entry ∈ t.entries, entry.2.WellNamed := by
      cases t with
      | file bytes => exact ⟨nofun, nofun⟩
      | directory entries => exact wellNamed_directory.mp named
    have next : ((t.entry? name).getD (Tree.directory [])).WellNamed := by
      cases found : t.entry? name with
      | none => exact .directory nofun nofun
      | some entry =>
        obtain ⟨before, after, whole, -⟩ := List.lookup_eq_some_iff.mp found
        exact inside (name, entry) (by simp [whole])
    refine wellNamed_directory.mpr ⟨List.forall_mem_cons.mpr ⟨first, ?_⟩, List.forall_mem_cons.mpr ⟨ih next later, ?_⟩⟩
    · exact fun entry listed => names entry (List.mem_of_mem_filter listed)
    · exact fun entry listed => inside entry (List.mem_of_mem_filter listed)

end Put

namespace Grows

variable {added : List String → Prop} {t t' : Tree}

/-- What a directory holds after it has grown is what it held before, grown or not. -/
theorem below (grows : Grows added t t') {way : List String} {found : Tree} (there : t.below? way = some found) :
    ∃ found', t'.below? way = some found' ∧ found.bytes? = found'.bytes? ∧
      Grows (fun more => added (way ++ more)) found found' := by
  have old : ¬added way := fun isNew => by simp [grows.missing way isNew] at there
  have same := grows.same way old
  cases there' : t'.below? way with
  | none => simp [there, there'] at same
  | some found' =>
    refine ⟨found', rfl, by simpa [there, there'] using same, ?_, ?_, ?_⟩
    · intro more isNew
      simpa [below?_append, there] using grows.missing _ isNew
    · intro more isNew
      simpa [below?_append, there'] using grows.file _ isNew
    · intro more old
      simpa [below?_append, there, there'] using grows.same _ old

theorem child (grows : Grows added t t') {name : String} {entry : Tree} (found : t.entry? name = some entry) :
    ∃ entry', t'.entry? name = some entry' ∧ entry.bytes? = entry'.bytes? ∧
      Grows (fun way => added (name :: way)) entry entry' := by
  have there : t.below? [name] = some entry := by simp [below?, found]
  obtain ⟨entry', found', rest⟩ := grows.below there
  exact ⟨entry', by simpa [below?] using found', rest⟩

end Grows

/-- How the same steps end in both trees: at a place that both have, nowhere, or at a place that is new. -/
inductive Ends (added : List String → Prop) (t t' : Tree) (stack : List Path.Part) :
    Except ReadError Spot → Except ReadError Spot → Prop
  | both {spot spot' : Spot} (here : t.At stack spot) (here' : t'.At stack spot') :
      Ends added t t' stack (.ok spot) (.ok spot')
  | neither (e e' : ReadError) : Ends added t t' stack (.error e) (.error e')
  | new (e : ReadError) {spot' : Spot} (here' : t'.At stack spot')
      (isNew : added (Discovery.namesOf stack.reverse)) : Ends added t t' stack (.error e) (.ok spot')

namespace Grows

variable {added : List String → Prop} {t t' : Tree} {stack : List Path.Part} {spot spot' : Spot}

theorem bytes?_of_at (grows : Grows added t t') (here : t.At stack spot) (here' : t'.At stack spot') :
    spot.here.bytes? = spot'.here.bytes? := by
  have there := Discovery.below?_of_at here
  have old : ¬added (Discovery.namesOf stack.reverse) := fun isNew => by simp [grows.missing _ isNew] at there
  simpa [there, Discovery.below?_of_at here'] using grows.same _ old

theorem isFile_of_isNew (grows : Grows added t t') (here' : t'.At stack spot')
    (isNew : added (Discovery.namesOf stack.reverse)) : spot'.here.isFile = true := by
  obtain ⟨bytes, there⟩ := grows.file _ isNew
  rw [Discovery.below?_of_at here'] at there
  rw [Option.some.inj there, isFile]

/-- Going down by a name. -/
theorem down (grows : Grows added t t') (here : t.At stack spot) (here' : t'.At stack spot') (name : String) :
    (∃ child child', spot.down? name = some child ∧ spot'.down? name = some child') ∨
    spot.down? name = none ∧ (spot'.down? name = none ∨
      ∃ child', spot'.down? name = some child' ∧ added (Discovery.namesOf (.name name :: stack).reverse)) := by
  have way : Discovery.namesOf (.name name :: stack).reverse = Discovery.namesOf stack.reverse ++ [name] := by
    simp [Discovery.namesOf]
  have below : t.below? (Discovery.namesOf stack.reverse ++ [name]) = spot.here.entry? name := by
    simp [below?_append, Discovery.below?_of_at here, below?]
  have below' : t'.below? (Discovery.namesOf stack.reverse ++ [name]) = spot'.here.entry? name := by
    simp [below?_append, Discovery.below?_of_at here', below?]
  rw [way]
  by_cases isNew : added (Discovery.namesOf stack.reverse ++ [name])
  · obtain ⟨bytes, found'⟩ := grows.file _ isNew
    have none := grows.missing _ isNew
    rw [below] at none
    rw [below'] at found'
    exact .inr ⟨by simp [Spot.down?, none], .inr ⟨_, by rw [Spot.down?, found', Option.map_some], isNew⟩⟩
  · have there := grows.same _ isNew
    rw [below, below'] at there
    cases found : spot.here.entry? name with
    | none =>
      have none' : spot'.here.entry? name = none := by simpa [found] using there.symm
      exact .inr ⟨by simp [Spot.down?, found], .inl (by simp [Spot.down?, none'])⟩
    | some entry =>
      obtain ⟨entry', found'⟩ : ∃ entry', spot'.here.entry? name = some entry' := by
        cases found' : spot'.here.entry? name with
        | none => simp [found, found'] at there
        | some entry' => exact ⟨entry', rfl⟩
      exact .inl ⟨_, _, by rw [Spot.down?, found, Option.map_some], by rw [Spot.down?, found', Option.map_some]⟩

theorem step (grows : Grows added t t') (here : t.At stack spot) (here' : t'.At stack spot') (segment : String) :
    Ends added t t' ((Path.Part.ofSegment? segment).elim stack (Path.pushClean stack))
      (spot.step segment) (spot'.step segment) := by
  have same : spot.here.isFile = spot'.here.isFile := by
    rw [isFile_eq, isFile_eq, grows.bytes?_of_at here here']
  simp only [Spot.step, Path.Part.ofSegment?, ← same]
  by_cases file : spot.here.isFile = true
  · simp only [if_pos file]
    exact .neither _ _
  · by_cases still : segment = "" ∨ segment = "."
    · simp only [if_neg file, if_pos still]
      exact .both here here'
    · by_cases up : segment = ".."
      · simp only [if_neg file, if_neg still, if_pos up]
        exact .both here.up here'.up
      · simp only [if_neg file, if_neg still, if_neg up]
        rcases grows.down here here' segment with
          ⟨child, child', found, found'⟩ | ⟨none, none' | ⟨child', found', isNew⟩⟩
        · rw [found, found']
          exact .both (.down here found) (.down here' found')
        · rw [none, none']
          exact .neither _ _
        · rw [none, found']
          exact .new _ (.down here' found') isNew

/-- There is no way on from a file that is new, so that the steps through both trees part at the last one only. -/
theorem run (grows : Grows added t t') (here : t.At stack spot) (here' : t'.At stack spot') (segments : List String) :
    Ends added t t' ((segments.filterMap Path.Part.ofSegment?).foldl Path.pushClean stack)
      (segments.foldlM Spot.step spot) (segments.foldlM Spot.step spot') := by
  induction segments generalizing stack spot spot' with
  | nil => exact .both here here'
  | cons segment segments ih =>
    have whole : ((segment :: segments).filterMap Path.Part.ofSegment?).foldl Path.pushClean stack =
        (segments.filterMap Path.Part.ofSegment?).foldl Path.pushClean
          ((Path.Part.ofSegment? segment).elim stack (Path.pushClean stack)) := by
      cases read : Path.Part.ofSegment? segment <;> simp [read]
    rw [whole, List.foldlM_cons, List.foldlM_cons]
    generalize first : spot.step segment = next, first' : spot'.step segment = next'
    cases first ▸ first' ▸ grows.step here here' segment with
    | both between between' => exact ih between between'
    | neither e e' => exact .neither e e'
    | @new e last between' isNew =>
      cases segments with
      | nil => exact .new e between' isNew
      | cons segment' segments =>
        have stuck : last.step segment' = .error .notDirectory := by
          rw [Spot.step, if_pos (grows.isFile_of_isNew between' isNew)]
        have none : (segment' :: segments).foldlM Spot.step last = .error .notDirectory := by
          rw [List.foldlM_cons, stuck]
          rfl
        show Ends added t t' _ (.error e) ((segment' :: segments).foldlM Spot.step last)
        rw [none]
        exact .neither e _

/-- A path leads to the same place in both trees, or nowhere, or to a file that is new. -/
theorem ends_locate (grows : Grows added t t') (p : Path) :
    Ends added t t' (p.parts.foldl Path.pushClean []) (t.locate p) (t'.locate p) := by
  rw [Tree.locate, Tree.locate]
  split
  · rename_i absolute
    rw [Path.parts_of_isAbsolute absolute]
    exact grows.run .root .root _
  · exact .neither _ _

theorem locate (grows : Grows added t t') {p : Path} (located : t.locate p = .ok spot) :
    ∃ spot', t'.locate p = .ok spot' ∧ spot.here.bytes? = spot'.here.bytes? := by
  have ends := grows.ends_locate p
  rw [located] at ends
  generalize t'.locate p = found at ends ⊢
  cases ends with
  | both here here' => exact ⟨_, rfl, grows.bytes?_of_at here here'⟩

theorem holdsAt_isDirectory (grows : Grows added t t') (p : Path) :
    t.holdsAt p isDirectory = t'.holdsAt p isDirectory := by
  have ends := grows.ends_locate p
  rw [holdsAt, holdsAt]
  generalize t.locate p = found, t'.locate p = found' at ends ⊢
  cases ends with
  | both here here' => simp [isDirectory, isFile_eq, grows.bytes?_of_at here here']
  | neither e e' => rfl
  | new e here' isNew => simp [isDirectory, grows.isFile_of_isNew here' isNew]

theorem bytesAt?_eq (grows : Grows added t t') {p : Path} (old : ¬added (Discovery.wayTo p)) :
    t.bytesAt? p = t'.bytesAt? p := by
  have ends := grows.ends_locate p
  rw [bytesAt?, bytesAt?]
  generalize t.locate p = found, t'.locate p = found' at ends ⊢
  cases ends with
  | both here here' => exact grows.bytes?_of_at here here'
  | neither e e' => rfl
  | new e here' isNew => exact absurd isNew old

theorem holdsAt_isFile (grows : Grows added t t') {p : Path} (old : ¬added (Discovery.wayTo p)) :
    t.holdsAt p isFile = t'.holdsAt p isFile := by
  rw [holdsAt_isFile_eq, holdsAt_isFile_eq, grows.bytesAt?_eq old]

end Grows

end Tree

end Layering
