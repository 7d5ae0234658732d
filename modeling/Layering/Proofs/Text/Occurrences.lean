import Layering.Proofs.Text.Offsets
import Layering.Text.Pattern

/-! Occurrences of a text in another one. Read from the left and without overlap they are those that are counted, and
their offsets are those of their first characters. -/
namespace Layering.Text

theorem isSome_stripPrefix?_iff {as cs : List Char} : (stripPrefix? as cs).isSome = true ↔ as <+: cs := by
  constructor
  · intro found
    obtain ⟨rest, same⟩ := Option.isSome_iff_exists.mp found
    exact ⟨rest, (eq_append_of_stripPrefix? same).symm⟩
  · rintro ⟨rest, rfl⟩
    rw [stripPrefix?_append]
    rfl

/-- A text occurs at the index of a character. -/
def OccursAt (needle cs : List Char) (n : Nat) : Prop := needle <+: cs.drop n

/-- The indices at which a text occurs from a given one on. After each occurrence the search goes on behind it. -/
inductive Occurrences (needle cs : List Char) : Nat → List Nat → Prop
  | none {n : Nat} (absent : ∀ m ≥ n, ¬OccursAt needle cs m) : Occurrences needle cs n []
  | found {n m : Nat} {others : List Nat} (later : n ≤ m) (first : ∀ k, n ≤ k → k < m → ¬OccursAt needle cs k)
      (here : OccursAt needle cs m) (rest : Occurrences needle cs (m + needle.length) others) :
      Occurrences needle cs n (m :: others)

section Occurring

variable {needle cs : List Char} {n m : Nat} {starts starts' : List Nat}

theorem exists_occursAt_iff : (∃ n, OccursAt needle cs n) ↔ needle <:+: cs := by
  constructor
  · rintro ⟨n, occurs⟩
    exact occurs.isInfix.trans (List.drop_suffix n cs).isInfix
  · rintro ⟨before, after, rfl⟩
    exact ⟨before.length, by simp [OccursAt]⟩

theorem OccursAt.getElem? (occurs : OccursAt needle cs n) {k : Nat} (inside : k < needle.length) :
    cs[n + k]? = some needle[k] := by
  obtain ⟨rest, whole⟩ := occurs
  rw [← List.getElem?_drop, ← whole, List.getElem?_append_left inside, List.getElem?_eq_getElem inside]

theorem occursAt_of_getElem? (reads : ∀ k, (inside : k < needle.length) → cs[n + k]? = some needle[k]) :
    OccursAt needle cs n := by
  refine List.prefix_iff_getElem?.mpr fun k inside => ?_
  rw [List.getElem?_drop, reads k inside]

/-- Nothing but an empty text occurs past the end. -/
theorem not_occursAt_of_length_le (some? : needle ≠ []) (past : cs.length ≤ n) : ¬OccursAt needle cs n := by
  rw [OccursAt, List.drop_of_length_le past, List.prefix_nil]
  exact some?

theorem Occurrences.of_succ (absent : ¬OccursAt needle cs n) (later : Occurrences needle cs (n + 1) starts) :
    Occurrences needle cs n starts := by
  cases later with
  | none none =>
    refine .none fun m beyond => ?_
    rcases Nat.eq_or_lt_of_le beyond with rfl | beyond
    · exact absent
    · exact none m beyond
  | found beyond first here rest =>
    refine .found (Nat.le_of_succ_le beyond) (fun k from' before => ?_) here rest
    rcases Nat.eq_or_lt_of_le from' with rfl | from'
    · exact absent
    · exact first k from' before

/-- What is found from the left is determined. -/
theorem Occurrences.unique (found : Occurrences needle cs n starts) (found' : Occurrences needle cs n starts') :
    starts = starts' := by
  induction found generalizing starts' with
  | none absent =>
    cases found' with
    | none => rfl
    | found later _ here => exact absurd here (absent _ later)
  | @found n m others later first here _ ih =>
    cases found' with
    | none absent => exact absurd here (absent m later)
    | @found _ m' _ later' first' here' rest' =>
      rcases Nat.lt_trichotomy m m' with before | rfl | before
      · exact absurd here (first' m later before)
      · rw [ih rest']
      · exact absurd here' (first m' later' before)

theorem Occurrences.occursAt (found : Occurrences needle cs n starts) : ∀ m ∈ starts, OccursAt needle cs m := by
  induction found with
  | none => simp
  | found _ _ here _ ih => exact List.forall_mem_cons.mpr ⟨here, ih⟩

theorem Occurrences.eq_nil_iff (found : Occurrences needle cs 0 starts) : starts = [] ↔ ¬needle <:+: cs := by
  rw [← exists_occursAt_iff]
  cases found with
  | none absent => simpa using absent
  | found _ _ here => simpa using ⟨_, here⟩

end Occurring

theorem offset_append_cons (front : List Char) (c : Char) (cs : List Char) :
    offset (front ++ c :: cs) (front.length + 1) = offset (front ++ c :: cs) front.length + c.utf8Size := by
  induction front with
  | nil => simp
  | cons d front ih =>
    simp only [List.cons_append, List.length_cons, offset_cons, ih]
    omega

/-- The search through the rest of a text. The occurrences before it have been found, and of the last one some
characters are still to be skipped. -/
theorem exists_occurrences_rest {needle : List Char} (some? : needle ≠ []) (skip : Nat) (front cs : List Char) :
    ∃ starts, Occurrences needle (front ++ cs) (front.length + skip) starts ∧
      occurrences needle skip (offset (front ++ cs) front.length) cs = starts.map (offset (front ++ cs)) := by
  induction cs generalizing skip front with
  | nil =>
    refine ⟨[], .none fun m beyond => not_occursAt_of_length_le some? ?_, ?_⟩
    · simp only [List.append_nil]
      omega
    · simp only [occurrences, List.map_nil]
  | cons c cs ih =>
    have onward (skip : Nat) := ih skip (front ++ [c])
    simp only [List.append_assoc, List.singleton_append, List.length_append, List.length_singleton,
      offset_append_cons] at onward
    cases skip with
    | succ skip =>
      obtain ⟨starts, found, same⟩ := onward skip
      refine ⟨starts, ?_, same⟩
      rwa [Nat.add_right_comm] at found
    | zero =>
      rw [occurrences]
      split
      · rename_i here
        obtain ⟨starts, found, same⟩ := onward (needle.length - 1)
        have behind : front.length + 1 + (needle.length - 1) = front.length + needle.length := by
          have length := List.length_pos_iff.mpr some?
          omega
        rw [behind] at found
        refine ⟨front.length :: starts, .found (Nat.le_refl _) (fun k from' before => by omega) ?_ found, ?_⟩
        · simpa [OccursAt, isSome_stripPrefix?_iff] using here
        · rw [same, List.map_cons]
      · rename_i absent
        obtain ⟨starts, found, same⟩ := onward 0
        refine ⟨starts, .of_succ (fun here => absent ?_) found, same⟩
        simpa [OccursAt, isSome_stripPrefix?_iff] using here

/-- A text that is not empty is searched for from the left. -/
theorem exists_occurrences {needle : List Char} (some? : needle ≠ []) (cs : List Char) :
    ∃ starts, Occurrences needle cs 0 starts ∧ occurrences needle 0 0 cs = starts.map (offset cs) := by
  simpa using exists_occurrences_rest some? 0 [] cs

end Layering.Text
