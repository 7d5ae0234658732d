import Layering.Proofs.Tree.Growth

/-! Reading what is found in a tree. A file that was found by going down from a directory is read at the path that it is
shown by, since both paths have the same steps. -/
namespace Layering

namespace Spot

theorem step_of_still {spot : Spot} {segment : String} (still : Path.Part.ofSegment? segment = none) :
    spot.step segment = if spot.here.isFile = true then .error .notDirectory else .ok spot := by
  have dot : segment = "" ∨ segment = "." := by
    by_contra other
    rw [Path.Part.ofSegment?, if_neg other] at still
    split at still <;> cases still
  rw [step, if_pos dot]

/-- Goes on by the parts of a path. -/
def follow (spot : Spot) (parts : List Path.Part) : Except ReadError Spot :=
  parts.foldlM (fun spot part => spot.step part.text) spot

theorem follow_cons (spot : Spot) (part : Path.Part) (parts : List Path.Part) :
    spot.follow (part :: parts) = spot.step part.text >>= (·.follow parts) := by
  rw [follow, List.foldlM_cons]
  rfl

theorem follow_append (spot : Spot) (parts more : List Path.Part) :
    spot.follow (parts ++ more) = spot.follow parts >>= (·.follow more) := by
  rw [follow, List.foldlM_append]
  rfl

theorem follow_of_run {segments : List String} {spot last : Spot}
    (went : segments.foldlM Spot.step spot = .ok last) :
    spot.follow (segments.filterMap Path.Part.ofSegment?) = .ok last := by
  induction segments generalizing spot with
  | nil => exact went
  | cons segment segments ih =>
    simp only [List.foldlM_cons, Policy.bind_eq_ok] at went
    obtain ⟨next, first, later⟩ := went
    cases read : Path.Part.ofSegment? segment with
    | none =>
      rw [step_of_still read] at first
      split at first
      · cases first
      · rw [List.filterMap_cons_none read, Except.ok.inj first]
        exact ih later
    | some part =>
      rw [List.filterMap_cons_some read, follow_cons, Path.Part.text_of_ofSegment? read, first]
      exact ih later

/-- Names lead down. -/
theorem exists_follow {spot : Spot} {names : List String} {found : Tree} (proper : ∀ name ∈ names, Path.IsName name)
    (there : spot.here.below? names = some found) :
    ∃ last, spot.follow (names.map .name) = .ok last ∧ last.here = found := by
  induction names generalizing spot with
  | nil => exact ⟨spot, rfl, Option.some.inj there⟩
  | cons name names ih =>
    obtain ⟨first, later⟩ := List.forall_mem_cons.mp proper
    obtain ⟨entry, inside, below⟩ := Option.bind_eq_some_iff.mp there
    obtain ⟨last, went, here⟩ : ∃ last, follow ⟨entry, spot.here :: spot.above⟩ (names.map .name) = .ok last ∧ _ :=
      ih later below
    have directory : ¬spot.here.isFile = true := fun file => by
      cases tree : spot.here with
      | file bytes => simp [tree, Tree.entry?, Tree.entries] at inside
      | directory entries => simp [tree, Tree.isFile] at file
    have step : spot.step name = .ok ⟨entry, spot.here :: spot.above⟩ := by
      rw [step, if_neg directory, if_neg (by simp [first.some?, first.notHere]), if_neg first.notUp, down?, inside,
        Option.map_some]
    refine ⟨last, ?_, here⟩
    rw [List.map_cons, follow_cons, Path.Part.text, step]
    exact went

/-- Whether there is a segment at the end that stands for nothing. -/
def trails (segments : List String) : Bool :=
  segments.getLast?.any fun segment => (Path.Part.ofSegment? segment).isNone

theorem trails_cons (segment : String) {segments : List String} (some? : segments ≠ []) :
    trails (segment :: segments) = trails segments := by
  obtain ⟨next, rest, rfl⟩ := List.exists_cons_of_ne_nil some?
  rw [trails, trails, List.getLast?_cons_cons]

theorem trails_of_still {segments : List String} (some? : segments ≠ [])
    (still : ∀ segment ∈ segments, Path.Part.ofSegment? segment = none) : trails segments = true := by
  rw [trails, List.getLast?_eq_some_getLast some?, Option.any_some, still _ (List.getLast_mem some?),
    Option.isNone_none]

/-- A path that is followed up to a file leads there, unless something trails that stands for nothing. -/
theorem run_of_follow {segments : List String} {spot last : Spot}
    (went : spot.follow (segments.filterMap Path.Part.ofSegment?) = .ok last) :
    segments.foldlM Spot.step spot =
      if last.here.isFile && trails segments then .error .notDirectory else .ok last := by
  induction segments generalizing spot with
  | nil =>
    obtain rfl := Except.ok.inj went
    simp [trails, pure, Except.pure]
  | cons segment segments ih =>
    rw [List.foldlM_cons]
    cases read : Path.Part.ofSegment? segment with
    | none =>
      rw [List.filterMap_cons_none read] at went
      rw [step_of_still read]
      by_cases file : spot.here.isFile = true
      · -- On a file nothing can follow but what stays there.
        have still : segments.filterMap Path.Part.ofSegment? = [] := by
          cases parts : segments.filterMap Path.Part.ofSegment? with
          | nil => rfl
          | cons part parts' =>
            rw [parts, follow_cons, step, if_pos file] at went
            cases went
        rw [still] at went
        obtain rfl := Except.ok.inj went
        have all : trails (segment :: segments) = true :=
          trails_of_still (List.cons_ne_nil _ _) (List.forall_mem_cons.mpr ⟨read, List.filterMap_eq_nil_iff.mp still⟩)
        rw [if_pos file, file, all]
        rfl
      · rw [if_neg file]
        by_cases none : segments = []
        · obtain rfl := none
          obtain rfl := Except.ok.inj went
          simp [file]
        · rw [trails_cons segment none]
          exact ih went
    | some part =>
      rw [List.filterMap_cons_some read, follow_cons, Path.Part.text_of_ofSegment? read] at went
      obtain ⟨next, first, later⟩ := Policy.bind_eq_ok.mp went
      have on := ih later
      rw [first]
      by_cases none : segments = []
      · obtain rfl := none
        simpa [trails, read] using on
      · rw [trails_cons segment none]
        exact on

end Spot
namespace Tree

theorem read_of_locate {t t' : Tree} {p : Path} {spot spot' : Spot} (located : t.locate p = .ok spot)
    (located' : t'.locate p = .ok spot') (same : spot.here.bytes? = spot'.here.bytes?) : t.read p = t'.read p := by
  obtain ⟨here, above⟩ := spot
  obtain ⟨here', above'⟩ := spot'
  cases here with
  | file bytes =>
    obtain rfl : here' = .file bytes := bytes?_eq_some.mp same.symm
    simp only [read, located, located']
  | directory entries =>
    cases here' with
    | file bytes => cases same
    | directory entries' => simp only [read, located, located']

/-- What is read at a path depends on its text and on the place that its steps lead to. -/
theorem read_of_follow {t t' : Tree} {p : Path} {spot spot' : Spot}
    (went : Spot.follow ⟨t, []⟩ p.steps = .ok spot) (went' : Spot.follow ⟨t', []⟩ p.steps = .ok spot')
    (same : spot.here.bytes? = spot'.here.bytes?) : t.read p = t'.read p := by
  by_cases absolute : p.isAbsolute = true
  · have located : t.locate p = _ := (if_pos absolute).trans (Spot.run_of_follow went)
    have located' : t'.locate p = _ := (if_pos absolute).trans (Spot.run_of_follow went')
    rw [isFile_eq, same, ← isFile_eq] at located
    by_cases stuck : (spot'.here.isFile && Spot.trails (Text.split '/' p.text)) = true
    · rw [if_pos stuck] at located located'
      rw [read, read, located, located']
    · rw [if_neg stuck] at located located'
      exact read_of_locate located located' same
  · rw [read, read, locate, locate, if_neg absolute, if_neg absolute]

theorem exists_locate_of_holdsAt {t : Tree} {p : Path} {property : Tree → Bool} (holds : t.holdsAt p property = true) :
    ∃ spot, t.locate p = .ok spot ∧ property spot.here = true := by
  rw [holdsAt] at holds
  split at holds
  · exact ⟨_, by assumption, holds⟩
  · cases holds

/-- From a base the segments of a relative path lead on. -/
theorem locate_join {t : Tree} {base p : Path} {spot : Spot} (located : t.locate base = .ok spot)
    (relative : p.isAbsolute = false) : t.locate (base.join p) = (Text.split '/' p.text).foldlM Spot.step spot := by
  have absolute := isAbsolute_of_locate located
  have some? : base.text ≠ "" := fun empty => by simp [Path.isAbsolute, empty] at absolute
  rw [locate, if_pos absolute] at located
  rw [locate, if_pos (Path.isAbsolute_join absolute p)]
  obtain ⟨before, -, bare | slash, joined⟩ := Path.exists_split_join some? relative
  · rw [joined, List.foldlM_append, ← bare, located]
    rfl
  · rw [slash, List.foldlM_append] at located
    obtain ⟨between, went, still⟩ := Policy.bind_eq_ok.mp located
    have same : between = spot := by
      rw [List.foldlM_cons, Spot.step_of_still rfl] at still
      split at still
      · cases still
      · exact Except.ok.inj still
    rw [joined, List.foldlM_append, went, same]
    rfl

/-- From a directory the name of an entry leads to it, with or without a dot before it. -/
theorem locate_entry {t : Tree} {base p : Path} {spot : Spot} {name : String} (located : t.locate base = .ok spot)
    (directory : spot.here.isDirectory = true) (proper : Path.IsName name)
    (cut : Text.split '/' p.text = [name] ∨ Text.split '/' p.text = [".", name]) :
    t.locate (base.join p) =
      match spot.here.entry? name with
      | some child => .ok ⟨child, spot.here :: spot.above⟩
      | none => .error .notFound := by
  have relative : ¬p.isAbsolute = true := fun absolute => by
    have head := Path.head?_split_of_isAbsolute absolute
    rcases cut with cut | cut
    · exact proper.some? (by simpa [cut] using head)
    · simp [cut] at head
  have open? : ¬spot.here.isFile = true := by simpa [isDirectory] using directory
  have last : spot.step name =
      match spot.here.entry? name with
      | some child => .ok ⟨child, spot.here :: spot.above⟩
      | none => .error .notFound := by
    rw [Spot.step, if_neg open?, if_neg (by simp [proper.some?, proper.notHere]), if_neg proper.notUp, Spot.down?]
    cases spot.here.entry? name <;> rfl
  have one : [name].foldlM Spot.step spot = spot.step name := by
    rw [List.foldlM_cons]
    cases spot.step name <;> rfl
  rw [locate_join located (by simpa using relative), ← last]
  rcases cut with cut | cut
  · rw [cut, one]
  · rw [cut, List.foldlM_cons, Spot.step_of_still rfl, if_neg open?]
    exact one

/-- The places that a path leads to on from others. -/
theorem exists_follow_join {t : Tree} {sources : Path} {spot : Spot} (located : t.locate sources = .ok spot)
    {way : List String} (proper : ∀ name ∈ way, Path.IsName name) {found : Tree}
    (there : spot.here.below? way = some found) :
    ∃ last, Spot.follow ⟨t, []⟩ (sources.join ⟨Text.join "/" way⟩).steps = .ok last ∧ last.here = found := by
  have run := located
  rw [locate, if_pos (isAbsolute_of_locate located)] at run
  obtain ⟨last, down, here⟩ := Spot.exists_follow proper there
  refine ⟨last, ?_, here⟩
  rw [Path.steps_join sources (Path.isAbsolute_names proper), Path.steps_names proper, Spot.follow_append, Path.steps,
    Spot.follow_of_run run]
  exact down

/-- A file that is found below a directory is read as before under the path that it is shown by. -/
theorem Grows.read_eq {added : List String → Prop} {t t' : Tree} (grows : Grows added t t') {base sources : Path}
    (absolute : base.isAbsolute = true) {spot : Spot} (located : t.locate sources = .ok spot) {way : List String}
    (proper : ∀ name ∈ way, Path.IsName name) {found : Tree} (there : spot.here.below? way = some found) :
    t.read (base.join ⟨base.displayBelow (sources.join ⟨Text.join "/" way⟩)⟩) =
      t'.read (base.join ⟨base.displayBelow (sources.join ⟨Text.join "/" way⟩)⟩) := by
  obtain ⟨spot', located', -⟩ := grows.locate located
  obtain ⟨_, sources', -, below⟩ := grows.below (Discovery.below?_wayTo located)
  obtain rfl := Option.some.inj (sources'.symm.trans (Discovery.below?_wayTo located'))
  obtain ⟨found', there', same, -⟩ := below.below there
  obtain ⟨last, went, here⟩ := exists_follow_join located proper there
  obtain ⟨last', went', here'⟩ := exists_follow_join located' proper there'
  have steps := Path.steps_join_displayBelow absolute
    (Path.isAbsolute_join (isAbsolute_of_locate located) ⟨Text.join "/" way⟩)
  rw [← steps] at went went'
  exact read_of_follow went went' (by rw [here, here', same])

end Tree

end Layering
