import Layering.Proofs.Source.Strings
import Layering.Source.Import

/-! The order of places in a text. Tokens stand one after the other, the specifier that a statement is read to is one
of its tokens, and so the references of a text never share a place. -/
namespace Layering

namespace Position

/-- The place comes first in the text. -/
def Before (a b : Position) : Prop := a.line < b.line ∨ a.line = b.line ∧ a.column < b.column

/-- The place is not after the other one. -/
def AtOrBefore (a b : Position) : Prop := a.line < b.line ∨ a.line = b.line ∧ a.column ≤ b.column

theorem eq_of_line_column {a b : Position} (line : a.line = b.line) (column : a.column = b.column) : a = b := by
  cases a
  cases b
  simp_all

theorem AtOrBefore.refl (p : Position) : p.AtOrBefore p := .inr ⟨rfl, Nat.le_refl _⟩

theorem Before.atOrBefore {a b : Position} (first : a.Before b) : a.AtOrBefore b := by
  unfold Before at first
  unfold AtOrBefore
  omega

theorem AtOrBefore.trans {a b c : Position} (first : a.AtOrBefore b) (second : b.AtOrBefore c) : a.AtOrBefore c := by
  unfold AtOrBefore at *
  omega

theorem Before.of_atOrBefore {a b c : Position} (first : a.Before b) (second : b.AtOrBefore c) : a.Before c := by
  unfold Before AtOrBefore at *
  omega

theorem AtOrBefore.line_le {a b : Position} (order : a.AtOrBefore b) : a.line ≤ b.line := by
  unfold AtOrBefore at order
  omega

theorem Before.ne {a b : Position} (first : a.Before b) : a ≠ b := by
  rintro rfl
  unfold Before at first
  omega

theorem Before.not_before {a b : Position} (first : a.Before b) : ¬b.Before a := by
  unfold Before at *
  omega

theorem before_next (p : Position) (c : Char) : p.Before (p.next c) := by
  unfold next Before
  split <;> simp

theorem atOrBefore_advance (p : Position) (cs : List Char) : p.AtOrBefore (p.advance cs) := by
  induction cs generalizing p with
  | nil => exact AtOrBefore.refl p
  | cons c cs ih => exact (before_next p c).atOrBefore.trans (ih (p.next c))

theorem before_advance_cons (p : Position) (c : Char) (cs : List Char) : p.Before (p.advance (c :: cs)) :=
  (before_next p c).of_atOrBefore (atOrBefore_advance (p.next c) cs)

end Position

namespace Source.Token

open Position

theorem atOrBefore_readString (quote : Char) (p : Position) (cs : List Char) :
    p.AtOrBefore (readString quote p cs).2.1 := by
  obtain ⟨text, body, rest, -, each⟩ := exists_readString quote cs
  rw [each]
  exact atOrBefore_advance p body

/-- Tokens that stand one after the other, none of them before a given place. -/
def Ascends (p : Position) (ts : List Token) : Prop :=
  (∀ t ∈ ts, p.AtOrBefore t.position) ∧ ts.Pairwise fun a b => a.position.Before b.position

theorem Ascends.mono {p q : Position} {ts : List Token} (earlier : p.AtOrBefore q) (ascends : Ascends q ts) :
    Ascends p ts :=
  ⟨fun t member => earlier.trans (ascends.1 t member), ascends.2⟩

theorem Ascends.cons {p q : Position} {ts : List Token} {t : Token} (stands : t.position = p) (ends : p.Before q)
    (ascends : Ascends q ts) : Ascends p (t :: ts) := by
  constructor
  · intro u member
    rcases List.mem_cons.mp member with rfl | member
    · exact stands ▸ AtOrBefore.refl _
    · exact ends.atOrBefore.trans (ascends.1 u member)
  · refine List.pairwise_cons.mpr ⟨fun u member => ?_, ascends.2⟩
    exact stands ▸ ends.of_atOrBefore (ascends.1 u member)

theorem ascends_scan (p : Position) (startsLine : Bool) (cs : List Char) : Ascends p (scan p startsLine cs) := by
  fun_induction scan p startsLine cs with
  | case1 => exact ⟨by simp, List.Pairwise.nil⟩
  | case2 p _ _ ih => exact ih.mono (before_next p _).atOrBefore
  | case3 p _ _ _ _ _ ih => exact ih.mono (before_next p _).atOrBefore
  | case4 p _ _ _ _ _ _ _ ih => exact ih.cons rfl (before_advance_cons p _ _)
  | case5 p _ _ _ _ _ _ _ _ _ ih =>
    exact ih.cons rfl ((before_next p _).of_atOrBefore (atOrBefore_readString _ _ _))
  | case6 p _ _ _ _ _ _ _ _ _ ih => exact ih.cons rfl (before_advance_cons p _ _)
  | case7 p _ _ _ _ _ _ _ _ ih => exact ih.cons rfl (before_next p _)

/-- Where the specifier of a statement was read: it is one of the tokens, and what remains comes after it. -/
def ReadAt (specifier : String) (position : Position) (ts rest : List Token) : Prop :=
  ∃ before t, ts = before ++ t :: rest ∧ t.kind = .string specifier ∧ t.position = position

theorem ReadAt.cons {specifier : String} {position : Position} {ts rest : List Token}
    (read : ReadAt specifier position ts rest) (t : Token) : ReadAt specifier position (t :: ts) rest := by
  obtain ⟨before, u, rfl, kind, place⟩ := read
  exact ⟨t :: before, u, rfl, kind, place⟩

theorem readAt_findFrom {isFirst : Bool} {depth : Nat} {ts rest : List Token} {found : String × Position}
    (h : findFrom isFirst depth ts = some (found, rest)) : ReadAt found.1 found.2 ts rest := by
  fun_induction findFrom isFirst depth ts with
  | case3 _ _ t _ _ _ ih => exact (ih h).cons t
  | case4 _ _ t _ _ _ ih => exact (ih h).cons t
  | case9 _ t _ specifier position startsLine _ _ =>
    obtain ⟨rfl, rfl⟩ := Prod.mk.inj (Option.some.inj h)
    exact ⟨[t], ⟨.string specifier, position, startsLine⟩, rfl, rfl, rfl⟩
  | case10 _ _ t _ _ _ _ _ ih => exact (ih h).cons t
  | case11 _ _ t _ _ _ _ _ _ _ _ _ ih => exact (ih h).cons t
  | _ => contradiction

theorem findFrom_of_map {ts rest : List Token} {kind : ImportKind} {found : Import}
    (read : ((findFrom true 0 ts).map fun (found, rest) => ((⟨found.1, found.2, kind⟩ : Import), rest)) =
      some (found, rest)) :
    found.kind = kind ∧ findFrom true 0 ts = some ((found.specifier, found.position), rest) := by
  obtain ⟨⟨read, rest'⟩, search, same⟩ := Option.map_eq_some_iff.mp read
  obtain ⟨rfl, rfl⟩ := Prod.mk.inj same
  exact ⟨rfl, search⟩

/-- An import names its specifier right away or after a from. -/
theorem search_of_readImport {t : Token} {ts rest : List Token} {found : Import}
    (read : readImport (t :: ts) = some (found, rest)) :
    found.kind = .sideEffect ∧ t.kind = .string found.specifier ∧ t.position = found.position ∧ rest = ts ∨
      found.kind = .binding ∧ findFrom true 0 (t :: ts) = some ((found.specifier, found.position), rest) := by
  simp only [readImport] at read
  split at read
  · rename_i text kind
    obtain ⟨rfl, rfl⟩ := Prod.mk.inj (Option.some.inj read)
    exact .inl ⟨rfl, kind, rfl, rfl⟩
  · cases read
  · cases read
  · exact .inr (findFrom_of_map read)

/-- The specifier of a re-export is searched from a star or a brace on. -/
theorem search_of_readExport {ts rest : List Token} {found : Import} (read : readExport ts = some (found, rest)) :
    found.kind = .reExport ∧ ∃ skipped u us, ts = skipped ++ u :: us ∧ (∀ t ∈ skipped ++ [u], t.isKeyword = false) ∧
      findFrom true 0 (u :: us) = some ((found.specifier, found.position), rest) := by
  have opening {u : Token} (opens : (decide (u.kind = .punctuation '*') || decide (u.kind = .punctuation '{')) = true) :
      u.isKeyword = false := by
    simp only [Bool.or_eq_true, decide_eq_true_eq] at opens
    rcases opens with kind | kind <;> simp [isKeyword, kind]
  cases ts with
  | nil => cases read
  | cons t ts =>
    simp only [readExport] at read
    split at read
    · rename_i opens
      obtain ⟨kind, search⟩ := findFrom_of_map read
      exact ⟨kind, [], t, ts, rfl, by simp [opening opens], search⟩
    · split at read
      · rename_i word
        have other : t.isKeyword = false := by simp [isKeyword, word]
        cases ts with
        | nil => cases read
        | cons u us =>
          simp only at read
          split at read
          · rename_i opens
            obtain ⟨kind, search⟩ := findFrom_of_map read
            exact ⟨kind, [t], u, us, rfl, by simp [opening opens, other], search⟩
          · cases read
      · cases read

theorem readAt_readImport {ts rest : List Token} {found : Import} (h : readImport ts = some (found, rest)) :
    ReadAt found.specifier found.position ts rest := by
  cases ts with
  | nil => cases h
  | cons t ts =>
    rcases search_of_readImport h with ⟨-, kind, place, rfl⟩ | ⟨-, search⟩
    · exact ⟨[], t, rfl, kind, place⟩
    · exact readAt_findFrom search

theorem readAt_readExport {ts rest : List Token} {found : Import} (h : readExport ts = some (found, rest)) :
    ReadAt found.specifier found.position ts rest := by
  obtain ⟨-, skipped, u, us, rfl, -, search⟩ := search_of_readExport h
  obtain ⟨before, t, whole, kind, place⟩ := readAt_findFrom search
  exact ⟨skipped ++ before, t, by rw [whole, List.append_assoc], kind, place⟩

theorem readAt_readStatement {t : Token} {ts rest : List Token} {found : Import}
    (h : readStatement t ts = some (found, rest)) : ReadAt found.specifier found.position ts rest := by
  unfold readStatement at h
  split at h
  · split at h
    · exact readAt_readImport h
    · split at h
      · exact readAt_readExport h
      · contradiction
  · contradiction

/-- The places of the references are places of tokens, in the same order and none of them twice. -/
theorem sublist_imports (ts : List Token) : ((imports ts).map (·.position)).Sublist (ts.map (·.position)) := by
  fun_induction imports ts with
  | case1 => exact List.Sublist.slnil
  | case2 t ts found rest h _ ih =>
    obtain ⟨before, u, rfl, -, place⟩ := readAt_readStatement h
    rw [List.map_cons, List.map_cons, List.map_append, List.map_cons, ← place]
    exact (List.sublist_append_of_sublist_right (ih.cons_cons _)).cons _
  | case3 t ts _ ih => exact ih.cons _

end Source.Token

/-- The references of a text stand one after the other. -/
theorem Source.pairwise_imports (text : String) :
    (Source.imports text).Pairwise fun a b => a.position.Before b.position := by
  have ascends := Source.Token.ascends_scan .start true (Source.sanitize true text).toList
  have places := Source.Token.sublist_imports (Source.Token.tokens (Source.sanitize true text))
  have ordered := List.Pairwise.sublist places (List.pairwise_map.mpr ascends.2)
  exact List.pairwise_map.mp ordered

end Layering
