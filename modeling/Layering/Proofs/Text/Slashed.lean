import Layering.Proofs.Path
import Layering.Text.Slashed
import Mathlib.Logic.Basic

/-! Texts between slashes. Joining undoes cutting, the first piece stands before the first slash, and what is left of
the last slash is the directory that a path lies in. -/
namespace Layering.Text

theorem split_ne_nil (separator : Char) (text : String) : split separator text ≠ [] := by
  simp [split, segments_ne_nil]

theorem split_of_not_mem {text : String} (whole : '/' ∉ text.toList) : split '/' text = [text] := by
  simp [split, segments_of_not_mem whole]

theorem join_cons {texts : List String} (some? : texts ≠ []) (separator text : String) :
    join separator (text :: texts) = text ++ separator ++ join separator texts := by
  obtain ⟨next, later, rfl⟩ := List.exists_cons_of_ne_nil some?
  rw [join]
  simp

theorem join_append {texts later : List String} (some? : texts ≠ []) (some' : later ≠ []) :
    join "/" (texts ++ later) = join "/" texts ++ "/" ++ join "/" later := by
  induction texts with
  | nil => exact absurd rfl some?
  | cons text texts ih =>
    rcases eq_or_ne texts [] with rfl | more
    · rw [List.singleton_append, join_cons some', join]
    · rw [List.cons_append, join_cons (by simp [more]), join_cons more, ih more]
      simp only [String.append_assoc]

theorem split_append_slashes (text : String) (n : Nat) :
    split '/' (text ++ .ofList (List.replicate n '/')) = split '/' text ++ List.replicate n "" := by
  induction n with
  | zero => simp
  | succ n ih =>
    have spelt : text ++ String.ofList (List.replicate (n + 1) '/') =
        text ++ .ofList (List.replicate n '/') ++ "/" ++ "" := by
      apply String.toList_inj.mp
      simp [List.replicate_succ']
    rw [spelt, split_append_slash, ih, List.replicate_succ', List.append_assoc]
    rfl

/-- What a piece holds stands in the text. -/
theorem mem_of_mem_segments {α : Type} [DecidableEq α] {separator a : α} {cs piece : List α}
    (cut : piece ∈ segments separator cs) (member : a ∈ piece) : a ∈ cs := by
  induction cs generalizing piece with
  | nil => simp_all [segments]
  | cons c cs ih =>
    unfold segments at cut
    split at cut
    · rcases List.mem_cons.mp cut with rfl | later
      · cases member
      · exact List.mem_cons_of_mem _ (ih later member)
    · split at cut
      · simp_all
      · rename_i first pieces found
        rcases List.mem_cons.mp cut with rfl | later
        · rcases List.mem_cons.mp member with rfl | inside
          · exact List.mem_cons_self
          · exact List.mem_cons_of_mem _ (ih (found ▸ List.mem_cons_self) inside)
        · exact List.mem_cons_of_mem _ (ih (found ▸ List.mem_cons_of_mem _ later) member)

theorem mem_join {c : Char} {separator : String} {texts : List String}
    (member : c ∈ (join separator texts).toList) : c ∈ separator.toList ∨ ∃ text ∈ texts, c ∈ text.toList := by
  induction texts with
  | nil => simp [join] at member
  | cons text texts ih =>
    rcases eq_or_ne texts [] with rfl | more
    · exact .inr ⟨text, List.mem_cons_self, member⟩
    rw [join_cons more, String.toList_append, String.toList_append, List.mem_append, List.mem_append] at member
    rcases member with (first | between) | later
    · exact .inr ⟨text, List.mem_cons_self, first⟩
    · exact .inl between
    · rcases ih later with between | ⟨other, listed, inside⟩
      · exact .inl between
      · exact .inr ⟨other, List.mem_cons_of_mem _ listed, inside⟩

theorem length_join_le_of_sublist (separator : String) {texts more : List String} (kept : texts.Sublist more) :
    (join separator texts).length ≤ (join separator more).length := by
  induction kept with
  | slnil => exact Nat.le_refl _
  | @cons texts more text kept ih =>
    rcases eq_or_ne more [] with rfl | some?
    · rw [List.sublist_nil.mp kept, join]
      exact Nat.zero_le _
    · rw [join_cons some?, String.length_append]
      omega
  | @cons_cons texts more text kept ih =>
    rcases eq_or_ne texts [] with rfl | some?
    · rcases eq_or_ne more [] with rfl | some'
      · exact Nat.le_refl _
      · simp only [join, join_cons some', String.length_append]
        omega
    · have some' : more ≠ [] := fun none => some? (List.sublist_nil.mp (none ▸ kept))
      simp only [join_cons some?, join_cons some', String.length_append]
      omega

theorem join_append_first (separator front text : String) (texts : List String) :
    join separator ((front ++ text) :: texts) = front ++ join separator (text :: texts) := by
  rcases eq_or_ne texts [] with rfl | more
  · rfl
  · simp only [join_cons more, String.append_assoc]

theorem join_segments (cs : List Char) : join "/" ((segments '/' cs).map String.ofList) = .ofList cs := by
  induction cs with
  | nil => rfl
  | cons c cs ih =>
    by_cases slash : c = '/'
    · have cut : segments '/' (c :: cs) = [] :: segments '/' cs := if_pos slash
      rw [cut, List.map_cons, join_cons (by simp [segments_ne_nil]), ih, slash, String.ofList_cons]
      rfl
    · obtain ⟨piece, pieces, cut⟩ := List.exists_cons_of_ne_nil (segments_ne_nil '/' cs)
      have on : segments '/' (c :: cs) = (c :: piece) :: pieces := by simp [segments, slash, cut]
      rw [on, List.map_cons, String.ofList_cons, String.ofList_cons, join_append_first, ← List.map_cons, ← cut, ih]

theorem join_split (text : String) : join "/" (split '/' text) = text := by
  rw [split, join_segments, String.ofList_toList]

/-- The first piece of a text is a text without slashes exactly if that text ends or is followed by a slash. -/
theorem head?_split {text front : String} (whole : '/' ∉ front.toList) :
    (split '/' text).head? = some front ↔ text = front ∨ (front ++ "/").toList <+: text.toList := by
  constructor
  · intro first
    obtain ⟨later, cut⟩ := List.head?_eq_some_iff.mp first
    have same := join_split text
    rw [cut] at same
    rcases eq_or_ne later [] with rfl | more
    · exact .inl same.symm
    · rw [join_cons more] at same
      exact .inr ⟨(join "/" later).toList, by rw [← same]; simp⟩
  · rintro (rfl | ⟨rest, spelt⟩)
    · rw [split_of_not_mem whole, List.head?_cons]
    · have same : text = front ++ "/" ++ .ofList rest := by
        apply String.toList_inj.mp
        rw [← spelt]
        simp
      rw [same, split_append_slash, split_of_not_mem whole, List.singleton_append, List.head?_cons]

/-- A text below a base is the base itself or goes on after a slash. -/
theorem below?_eq_some {base text rest : String} :
    below? base text = some rest ↔ text = base ∧ rest = "" ∨ text = base ++ "/" ++ rest := by
  constructor
  · intro below
    rw [below?] at below
    split at below
    · rename_i same
      have spelt := eq_append_of_stripPrefix? same
      rw [List.append_nil] at spelt
      exact .inl ⟨String.toList_inj.mp spelt, (Option.some.inj below).symm⟩
    · rename_i more same
      obtain rfl := Option.some.inj below
      refine .inr (String.toList_inj.mp ?_)
      rw [eq_append_of_stripPrefix? same]
      simp
    · cases below
  · rintro (⟨rfl, rfl⟩ | rfl)
    · have whole := stripPrefix?_append text.toList []
      rw [List.append_nil] at whole
      rw [below?, whole]
    · have spelt : (base ++ "/" ++ rest).toList = base.toList ++ '/' :: rest.toList := by simp
      rw [below?, spelt, stripPrefix?_append]
      simp

/-- The directory that the path of a file lies in, which is empty for the project directory. -/
def LiesIn (path directory : String) : Prop :=
  '/' ∉ path.toList ∧ directory = "" ∨ ∃ name, '/' ∉ name.toList ∧ path = directory ++ "/" ++ name

theorem liesIn_parent (path : String) : LiesIn path (parent path) := by
  obtain ⟨front, last, cut⟩ : ∃ front last, split '/' path = front ++ [last] :=
    ⟨_, _, (List.dropLast_concat_getLast (split_ne_nil '/' path)).symm⟩
  have whole : '/' ∉ last.toList := by
    obtain ⟨piece, listed, rfl⟩ := List.mem_map.mp (show last ∈ split '/' path by simp [cut])
    simpa using not_mem_of_mem_segments listed
  have same := join_split path
  rw [parent, cut, List.dropLast_concat]
  rw [cut] at same
  rcases eq_or_ne front [] with rfl | more
  · refine .inl ⟨?_, rfl⟩
    rwa [← same]
  · rw [join_append more (by simp)] at same
    exact .inr ⟨last, whole, same.symm⟩

theorem LiesIn.parent_eq {path directory : String} (lies : LiesIn path directory) : parent path = directory := by
  rcases lies with ⟨whole, rfl⟩ | ⟨name, whole, rfl⟩
  · rw [parent, split_of_not_mem whole]
    rfl
  · rw [parent, split_append_slash, split_of_not_mem whole, List.dropLast_concat, join_split]

theorem parent_eq_iff {path directory : String} : parent path = directory ↔ LiesIn path directory := by
  refine ⟨?_, LiesIn.parent_eq⟩
  rintro rfl
  exact liesIn_parent path

/-- A file name is cut at its last dot, if something stands before that dot. -/
theorem cutExtension_append {stem extension : String} (some? : stem ≠ "") (plain : '.' ∉ extension.toList) :
    cutExtension (stem ++ "." ++ extension) = (stem, some extension) := by
  have whole : (stem ++ "." ++ extension).toList.reverse =
      extension.toList.reverse ++ '.' :: stem.toList.reverse := by simp
  have pass : ∀ c ∈ extension.toList.reverse, decide (c ≠ '.') = true := by
    intro c listed
    have other : c ≠ '.' := fun same => plain (same ▸ List.mem_reverse.mp listed)
    simpa using other
  have cut := takeWhile_and_dropWhile_eq (p := (· ≠ '.')) (a := '.') (by simp)
  obtain ⟨taken, dropped⟩ := (cut (stem ++ "." ++ extension).toList.reverse _ _).mpr ⟨whole, pass⟩
  obtain ⟨before, rest, start⟩ : ∃ before rest, stem.toList.reverse = before :: rest :=
    List.exists_cons_of_ne_nil (by simpa using some?)
  have back : String.ofList (before :: rest).reverse = stem := by rw [← start, List.reverse_reverse, String.ofList_toList]
  rw [start] at dropped
  simp only [cutExtension, dropped, taken, back, List.reverse_reverse, String.ofList_toList]

end Layering.Text
