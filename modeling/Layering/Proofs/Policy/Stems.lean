import Layering.Classification
import Layering.Proofs.Policy.Invariants
import Mathlib.Data.List.Duplicate

/-! The stems of the roles. An accepted policy gives no stem to two roles, and only roles that have a name have stems or
are required, so that a file has such a role exactly if its stem is one of the role. -/
namespace Layering

theorem Role.text_injective {a b : Role} (same : a.text = b.text) : a = b := by
  revert same
  cases a <;> cases b <;> decide

theorem Role.ne_unclassified_of_ofName? {name : String} {role : Role} (found : ofName? name = some role) :
    role ≠ .unclassified := by
  rintro rfl
  unfold ofName? at found
  split at found
  · cases found
  · exact absurd (List.mem_of_find?_eq_some found) (by decide)

namespace Policy

/-- The stems that a policy lists for a role, as they are written. -/
def RolesEntry.written (entry : RolesEntry) : Role → List String
  | .ui => entry.ui
  | .store => entry.store
  | .service => entry.service
  | .types => entry.types
  | .publicApi => entry.publicApi
  | .unclassified => []

/-- The stems that a policy lists for a role, without blanks at their ends. -/
def RolesEntry.stems (entry : RolesEntry) (role : Role) : List String := (entry.written role).map Text.trim

/-- All stems that a policy lists, each with its role. -/
def RolesEntry.assigned (entry : RolesEntry) : List (String × Role) :=
  Role.named.flatMap fun role => (entry.stems role).map fun stem => (stem, role)

/-- All that a policy lists for the roles, each with its role and its place in the list of the role. -/
def RolesEntry.listed (entry : RolesEntry) : List (Role × Nat × String) :=
  Role.named.flatMap fun role => (entry.written role).zipIdx.map fun (stem, index) => (role, index, stem)

/-- A stem with its role, as it is kept. -/
def assignment (item : Role × Nat × String) : String × Role := (Text.trim item.2.2, item.1)

section Assigning

variable {entry : RolesEntry} {item : Role × Nat × String} {items : List (Role × Nat × String)}
  {stems next : List (String × Role)} {stem : String} {role : Role}

theorem checkStem_eq_ok : checkStem stems item = .ok next ↔ (assignment item).1 ≠ "" ∧
    (∀ other ∈ stems, other.1 ≠ (assignment item).1) ∧ next = stems ++ [assignment item] := by
  obtain ⟨role, index, value⟩ := item
  simp only [checkStem, refuse_eq_ok, pure_eq_ok, assignment]
  rw [eq_comm (a := next), Option.not_isSome_iff_eq_none, List.lookup_eq_none_iff]
  simp only [bne_iff_ne, ne_comm, ne_eq]

theorem foldlM_checkStem_eq_ok (apart : (stems.map (·.1)).Nodup) : items.foldlM checkStem stems = .ok next ↔
    (∀ item ∈ items, (assignment item).1 ≠ "") ∧ ((stems ++ items.map assignment).map (·.1)).Nodup ∧
      next = stems ++ items.map assignment := by
  induction items generalizing stems with
  | nil =>
    simp only [List.foldlM_nil, pure_eq_ok, List.map_nil, List.append_nil, apart, List.not_mem_nil, false_implies,
      implies_true, true_and]
    exact eq_comm
  | cons item items ih =>
    simp only [List.foldlM_cons, bind_eq_ok, checkStem_eq_ok, List.forall_mem_cons, List.map_cons]
    constructor
    · rintro ⟨_, ⟨some?, fresh, rfl⟩, later⟩
      obtain ⟨others, keys, rfl⟩ := (ih (nodup_map_concat apart fresh)).mp later
      rw [List.append_assoc, List.singleton_append] at keys ⊢
      exact ⟨⟨some?, others⟩, keys, rfl⟩
    · rintro ⟨⟨some?, others⟩, keys, rfl⟩
      have fresh : ∀ other ∈ stems, other.1 ≠ (assignment item).1 := by
        rw [List.map_append, List.nodup_append] at keys
        exact fun other member => keys.2.2 _ (List.mem_map_of_mem member) _ (by simp)
      refine ⟨_, ⟨some?, fresh, rfl⟩, (ih (nodup_map_concat apart fresh)).mpr ?_⟩
      rw [List.append_assoc, List.singleton_append]
      exact ⟨others, keys, rfl⟩

theorem map_assignment_listed (entry : RolesEntry) : entry.listed.map assignment = entry.assigned := by
  rw [RolesEntry.listed, List.map_flatMap]
  refine List.flatMap_congr fun role _ => ?_
  rw [List.map_map, RolesEntry.stems, List.map_map]
  conv_rhs => rw [← List.zipIdx_map_fst 0 (entry.written role), List.map_map]
  rfl

/-- The stems are kept as they are listed, unless one of them is empty or listed twice. -/
theorem checkRoles_eq_ok : checkRoles entry = .ok stems ↔
    (∀ item ∈ entry.assigned, item.1 ≠ "") ∧ (entry.assigned.map (·.1)).Nodup ∧ stems = entry.assigned := by
  have whole : checkRoles entry = entry.listed.foldlM checkStem [] := rfl
  have start : (([] : List (String × Role)).map (·.1)).Nodup := List.nodup_nil
  have named : (∀ item ∈ entry.listed, (assignment item).1 ≠ "") ↔ ∀ item ∈ entry.assigned, item.1 ≠ "" := by
    rw [← map_assignment_listed, List.forall_mem_map]
  rw [whole, foldlM_checkStem_eq_ok start, List.nil_append, map_assignment_listed, named]

theorem checkStem_eq_error {e : Error} (refused : checkStem stems item = .error e) :
    (assignment item).1 = "" ∧ e = .emptyName (.roleStem item.1 item.2.1) ∨
      (assignment item).1 ∈ stems.map (·.1) ∧ e = .repeatedStem (assignment item).1 := by
  obtain ⟨role, index, value⟩ := item
  simp only [checkStem] at refused
  split at refused
  · rename_i none
    exact .inl ⟨none, (Except.error.inj refused).symm⟩
  · split at refused
    · rename_i known
      obtain ⟨other, found⟩ := Option.isSome_iff_exists.mp known
      obtain ⟨before, after, rfl, -⟩ := List.lookup_eq_some_iff.mp found
      exact .inr ⟨by simp [assignment], (Except.error.inj refused).symm⟩
    · cases refused

/-- Only roles that have a name have stems. -/
theorem named_of_mem_stems (own : stem ∈ entry.stems role) : role ∈ Role.named := by
  cases role with
  | unclassified => cases own
  | _ => decide

theorem mem_assigned : (stem, role) ∈ entry.assigned ↔ stem ∈ entry.stems role := by
  constructor
  · intro kept
    obtain ⟨_, -, listed⟩ := List.mem_flatMap.mp kept
    obtain ⟨_, own, same⟩ := List.mem_map.mp listed
    obtain ⟨rfl, rfl⟩ := Prod.mk.inj same
    exact own
  · intro own
    exact List.mem_flatMap.mpr ⟨role, named_of_mem_stems own, List.mem_map_of_mem own⟩

theorem map_fst_assigned (entry : RolesEntry) : entry.assigned.map (·.1) = Role.named.flatMap entry.stems := by
  simp [RolesEntry.assigned, List.map_flatMap, Function.comp_def]

/-- A stem is empty. -/
def RolesEntry.LeavesEmpty (entry : RolesEntry) : Prop := ∃ role, "" ∈ entry.stems role

/-- A stem is listed for two roles. -/
def RolesEntry.Shares (entry : RolesEntry) : Prop := ∃ a b, a ≠ b ∧ ∃ stem ∈ entry.stems a, stem ∈ entry.stems b

/-- A stem is listed for one role twice. -/
def RolesEntry.Repeats (entry : RolesEntry) : Prop := ∃ role, ¬(entry.stems role).Nodup

theorem nodup_assigned_iff : (entry.assigned.map (·.1)).Nodup ↔ ¬entry.Shares ∧ ¬entry.Repeats := by
  have symmetric : Std.Symm (Function.onFun List.Disjoint entry.stems) :=
    ⟨fun _ _ apart stem own other => apart other own⟩
  rw [map_fst_assigned, List.nodup_flatMap]
  constructor
  · rintro ⟨once, apart⟩
    refine ⟨fun ⟨a, b, differ, stem, own, other⟩ => ?_, fun ⟨role, twice⟩ => twice ?_⟩
    · exact apart.forall (named_of_mem_stems own) (named_of_mem_stems other) differ own other
    · cases stems : entry.stems role with
      | nil => exact List.nodup_nil
      | cons stem rest => exact stems ▸ once role (named_of_mem_stems (stems ▸ List.mem_cons_self))
  · rintro ⟨single, once⟩
    refine ⟨fun role _ => ?_, ?_⟩
    · by_contra twice
      exact once ⟨role, twice⟩
    · have distinct : Role.named.Nodup := by decide
      exact distinct.pairwise_of_forall_ne fun a _ b _ differ stem own other =>
        single ⟨a, b, differ, stem, own, other⟩

theorem checkRoles_fails_iff :
    (∃ e, checkRoles entry = .error e) ↔ entry.LeavesEmpty ∨ entry.Shares ∨ entry.Repeats := by
  have some? : (∀ item ∈ entry.assigned, item.1 ≠ "") ↔ ¬entry.LeavesEmpty := by
    simp only [Prod.forall, mem_assigned, RolesEntry.LeavesEmpty, not_exists]
    exact ⟨fun all role own => all "" role own rfl, fun all stem role own same => all role (same ▸ own)⟩
  have passes : (∃ stems, checkRoles entry = .ok stems) ↔ ¬entry.LeavesEmpty ∧ ¬entry.Shares ∧ ¬entry.Repeats := by
    simp only [checkRoles_eq_ok, nodup_assigned_iff, some?, exists_and_left, exists_eq, and_true]
  have either : (∃ e, checkRoles entry = .error e) ↔ ¬∃ stems, checkRoles entry = .ok stems := by
    cases checkRoles entry <;> simp
  rw [either, passes]
  tauto

/-- What an error says of the stems: where the empty one is listed, or which one is listed twice. -/
inductive Blames (entry : RolesEntry) : Error → Prop
  | empty {role : Role} {index : Nat} {value : String} (here : (entry.written role)[index]? = some value)
      (blank : Text.trim value = "") : Blames entry (.emptyName (.roleStem role index))
  | repeated {stem : String} (twice : List.Duplicate stem (entry.assigned.map (·.1))) :
      Blames entry (.repeatedStem stem)

theorem mem_listed : item ∈ entry.listed → (entry.written item.1)[item.2.1]? = some item.2.2 := by
  intro listed
  obtain ⟨role, -, own⟩ := List.mem_flatMap.mp listed
  obtain ⟨⟨value, index⟩, here, rfl⟩ := List.mem_map.mp own
  exact List.mem_zipIdx_iff_getElem?.mp here

theorem blames_of_checkRoles {e : Error} (refused : checkRoles entry = .error e) : Blames entry e := by
  obtain ⟨before, item, after, reached, whole, passed, here⟩ := exists_of_foldlM_eq_error
    (show entry.listed.foldlM checkStem [] = .error e from refused)
  obtain ⟨-, -, rfl⟩ := (foldlM_checkStem_eq_ok (by simp)).mp passed
  rcases checkStem_eq_error here with ⟨none, rfl⟩ | ⟨known, rfl⟩
  · exact .empty (mem_listed (whole ▸ by simp)) none
  · refine .repeated (List.duplicate_iff_two_le_count.mpr ?_)
    have first := List.count_pos_iff.mpr known
    rw [← map_assignment_listed, whole]
    simp only [List.map_append, List.map_cons, List.count_append, List.count_cons_self, List.nil_append] at first ⊢
    omega

/-- Reading the stems fails exactly if a stem is empty, or listed for two roles, or for one role twice, and what an
error says of them is so. Otherwise a stem stands for a role exactly if it is listed for the role. The third cause of a
failure can be left out exactly where it occurs only together with one of the others. -/
theorem stems_faithful_iff (entry : RolesEntry) :
    ((∃ e, checkRoles entry = .error e) ↔ entry.LeavesEmpty ∨ entry.Shares ∨ entry.Repeats) ∧
    (∀ e, checkRoles entry = .error e → Blames entry e) ∧
    (∀ p : Policy, checkRoles entry = .ok p.stems → ∀ stem,
      (∀ role, role ≠ .unclassified → (p.roleOfStem stem = role ↔ stem ∈ entry.stems role)) ∧
      ((∀ role, stem ∉ entry.stems role) → p.roleOfStem stem = .unclassified)) ∧
    (((∃ e, checkRoles entry = .error e) ↔ entry.LeavesEmpty ∨ entry.Shares) ↔
      (entry.Repeats → entry.LeavesEmpty ∨ entry.Shares)) := by
  refine ⟨checkRoles_fails_iff, fun e => blames_of_checkRoles, fun p loaded stem => ?_, ?_⟩
  · obtain ⟨-, keys, kept⟩ := checkRoles_eq_ok.mp loaded
    have found (role : Role) : p.stems.lookup stem = some role ↔ stem ∈ entry.stems role := by
      rw [kept, lookup_eq_some_iff keys, mem_assigned]
    simp only [roleOfStem, ← found]
    refine ⟨fun role named => ?_, fun none => ?_⟩
    · cases p.stems.lookup stem <;> simp [Ne.symm named]
    · rw [Option.eq_none_iff_forall_ne_some.mpr none, Option.getD_none]
  · rw [checkRoles_fails_iff]
    tauto

/-- A stem that is listed for one role twice is refused as if two roles had it. -/
theorem repeated_stem_refused :
    let entry : RolesEntry := { ui := ["view", " view "] }
    checkRoles entry = .error (.repeatedStem "view") ∧ ¬entry.LeavesEmpty ∧ ¬entry.Shares := by
  intro entry
  have each : ∀ role ∈ Role.named, "" ∉ entry.stems role := by decide +kernel
  have apart : ∀ a ∈ Role.named, ∀ b ∈ Role.named, ∀ stem ∈ entry.stems a, stem ∈ entry.stems b → a = b := by
    decide +kernel
  refine ⟨by decide +kernel, fun ⟨role, blank⟩ => each role (named_of_mem_stems blank) blank, ?_⟩
  rintro ⟨a, b, differ, stem, own, other⟩
  exact differ (apart a (named_of_mem_stems own) b (named_of_mem_stems other) stem own other)

end Assigning

/-- The stems and the required roles of an accepted policy. -/
structure StemsFormed (p : Policy) : Prop where
  keys : (p.stems.map (·.1)).Nodup
  required : ∀ role ∈ p.modules.required, role ≠ .unclassified

theorem load_stemsFormed {document : Document} {p : Policy} (accepted : load document = .ok p) : StemsFormed p := by
  have loads := load_eq_ok.mp accepted
  refine ⟨?_, fun role listed => ?_⟩
  · obtain ⟨-, keys, kept⟩ := checkRoles_eq_ok.mp loads.stems
    exact kept ▸ keys
  have modules := loads.modules
  simp only [checkModules, bind_eq_ok, pure_eq_ok] at modules
  obtain ⟨required, checked, same⟩ := modules
  rw [← same] at listed
  obtain ⟨index, name, passed⟩ := exists_of_mem_checkEach checked (mem_distinct.mp listed)
  unfold roleAt at passed
  split at passed
  · rename_i found
    obtain rfl := Except.ok.inj passed
    exact Role.ne_unclassified_of_ofName? found
  · cases passed

/-- No role has an empty stem. -/
theorem load_stems_ne {document : Document} {p : Policy} (accepted : load document = .ok p) :
    ∀ entry ∈ p.stems, entry.1 ≠ "" := by
  obtain ⟨named, -, kept⟩ := checkRoles_eq_ok.mp (load_eq_ok.mp accepted).stems
  exact kept ▸ named

@[simp] theorem mem_stemsOf {p : Policy} {role : Role} {stem : String} :
    stem ∈ p.stemsOf role ↔ (stem, role) ∈ p.stems := by
  simp only [stemsOf, List.mem_mergeSort, List.mem_map, List.mem_filter, decide_eq_true_eq, Prod.exists,
    exists_and_right, exists_eq_right]

theorem StemsFormed.roleOf_eq_iff {p : Policy} (formed : StemsFormed p) {role : Role} (named : role ≠ .unclassified)
    {path : String} : p.roleOf path = role ↔ ∃ stem ∈ p.stemsOf role, Text.stem? path = some stem := by
  rw [roleOf]
  cases Text.stem? path with
  | none => simp [Ne.symm named]
  | some stem =>
    simp only [mem_stemsOf, ← lookup_eq_some_iff formed.keys, roleOfStem, Option.some.injEq, exists_eq_right']
    cases p.stems.lookup stem <;> simp [Ne.symm named]

end Policy

end Layering
