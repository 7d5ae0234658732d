import Layering.Proofs.Resolution.Normal

/-! Paths without dots, step by step. A machine follows the segments of a path with a stack of the names that it has led
down by, and stops where two dots find the stack empty. What is left of a path is what the machine holds at the end,
although it is read off the cleaned path alone, where two dots that lead out stay at the start. -/
namespace Layering.Path

/-- One step of the machine, with the last name on top. Two dots take a name away, and there is no step if there is
none. -/
def follow? (stack : List String) (segment : String) : Option (List String) :=
  if IsStill segment then some stack
  else if segment = ".." then stack.tail?
  else some (segment :: stack)

/-- The stack after all segments. -/
def followAll? (segments : List String) : Option (List String) := segments.foldlM follow? []

/-- At some point two dots follow when there is nothing on the stack. -/
def Overdrawn (segments : List String) : Prop :=
  ∃ before, before ++ [".."] <+: segments ∧ followAll? before = some []

section Machine

variable {segments names stack : List String}

theorem followAll?_append (segments more : List String) :
    followAll? (segments ++ more) = (followAll? segments).bind (more.foldlM follow? ·) :=
  List.foldlM_append

theorem followAll?_concat (segments : List String) (segment : String) :
    followAll? (segments ++ [segment]) = (followAll? segments).bind (follow? · segment) := by
  rw [followAll?_append]
  simp

theorem not_isStill_up : ¬IsStill ".." := fun still => still.ne_up rfl

theorem Leads.followAll?_eq (leads : Leads segments names) : followAll? segments = some names.reverse := by
  induction leads with
  | start => rfl
  | stay before still ih => rw [followAll?_concat, ih, Option.bind_some, follow?, if_pos still]
  | down before moves notUp ih =>
    rw [followAll?_concat, ih, Option.bind_some, follow?, if_neg moves, if_neg notUp, List.reverse_append]
    rfl
  | up before ih =>
    rw [followAll?_concat, ih, Option.bind_some, follow?, if_neg not_isStill_up, if_pos rfl, List.reverse_append]
    rfl

/-- The machine holds the names that the segments lead down by. -/
theorem leads_of_followAll? (held : followAll? segments = some stack) : Leads segments stack.reverse := by
  induction segments using List.reverseRecOn generalizing stack with
  | nil =>
    obtain rfl := Option.some.inj held
    exact .start
  | append_singleton segments segment ih =>
    rw [followAll?_concat, Option.bind_eq_some_iff] at held
    obtain ⟨below, earlier, moved⟩ := held
    have leads := ih earlier
    unfold follow? at moved
    split at moved
    · rename_i still
      obtain rfl := Option.some.inj moved
      exact leads.stay still
    · rename_i moves
      split at moved
      · rename_i up
        obtain ⟨name, rfl⟩ : ∃ name, below = name :: stack := by
          cases below with
          | nil => cases moved
          | cons name below => exact ⟨name, congrArg (name :: ·) (Option.some.inj moved)⟩
        rw [List.reverse_cons] at leads
        exact up ▸ leads.up
      · rename_i notUp
        obtain rfl := Option.some.inj moved
        rw [List.reverse_cons]
        exact leads.down moves notUp

theorem follow?_eq_none {segment : String} (stops : follow? stack segment = none) : segment = ".." ∧ stack = [] := by
  unfold follow? at stops
  split at stops
  · cases stops
  · split at stops
    · rename_i up
      cases stack with
      | nil => exact ⟨up, rfl⟩
      | cons name below => cases stops
    · cases stops

/-- The machine stops only where it finds the stack empty. -/
theorem followAll?_eq_none : followAll? segments = none ↔ Overdrawn segments := by
  constructor
  · intro stopped
    induction segments using List.reverseRecOn with
    | nil => cases stopped
    | append_singleton segments segment ih =>
      cases earlier : followAll? segments with
      | none =>
        obtain ⟨before, start, empty⟩ := ih earlier
        exact ⟨before, start.trans (List.prefix_append segments [segment]), empty⟩
      | some stack =>
        rw [followAll?_concat, earlier, Option.bind_some] at stopped
        obtain ⟨rfl, rfl⟩ := follow?_eq_none stopped
        exact ⟨segments, List.prefix_rfl, earlier⟩
  · rintro ⟨before, ⟨rest, rfl⟩, empty⟩
    have stops : follow? [] ".." = none := by decide
    rw [followAll?_append, followAll?_concat, empty, Option.bind_some, stops, Option.bind_none]

/-- It does so exactly where more segments have led up than down. -/
theorem overdrawn_iff_climbs : Overdrawn segments ↔ Climbs segments := by
  rw [← followAll?_eq_none]
  constructor
  · intro stopped
    refine (leads_or_climbs segments).resolve_left ?_
    rintro ⟨names, leads⟩
    rw [leads.followAll?_eq] at stopped
    cases stopped
  · intro climbs
    cases held : followAll? segments with
    | none => rfl
    | some stack => exact absurd climbs (leads_of_followAll? held).not_climbs

end Machine

section Cleaning

/-- A path that is written from parts has these parts. -/
theorem AreParts.parts_ofParts {parts : List Part} (are : AreParts parts) : (ofParts parts).parts = parts := by
  cases are with
  | relative steps =>
    have shown : ofParts parts = ⟨displayParts parts⟩ := by
      cases parts with
      | nil => rfl
      | cons part rest => rcases steps part List.mem_cons_self with rfl | ⟨name, -, rfl⟩ <;> rfl
    rw [shown, (AreParts.relative steps).parts_displayParts]
  | @absolute parts steps =>
    have spelt : ofParts (.root :: parts) = ⟨"" ++ "/" ++ displayParts parts⟩ := rfl
    have absolute : (ofParts (.root :: parts)).isAbsolute = true := by simp [spelt, isAbsolute]
    rw [parts_of_isAbsolute absolute, spelt, steps_append_slash, steps.steps_displayParts]
    rfl

theorem areParts_cleanParts (p : Path) : AreParts (cleanParts p.parts) := by
  rcases Bool.eq_false_or_eq_true p.isAbsolute with absolute | relative
  · obtain ⟨names, proper, cleaned⟩ := cleanParts_of_isAbsolute absolute
    rw [cleaned]
    exact .absolute fun part listed => .inr (proper part listed)
  · rw [cleanParts_of_relative relative]
    exact .relative (areSteps p).clean

theorem AreParts.here_notMem {parts : List Part} (are : AreParts parts) : .here ∉ parts := by
  cases are with
  | relative steps => exact steps.here_notMem
  | absolute steps => simpa using steps.here_notMem

/-- A clean path has the parts that the path is cleaned to, or is a dot if there are none. -/
theorem parts_clean (p : Path) :
    p.clean.parts = if cleanParts p.parts = [] then [.here] else cleanParts p.parts := by
  have are := areParts_cleanParts p
  rw [clean]
  cases cleaned : cleanParts p.parts with
  | nil => decide
  | cons part rest =>
    rw [cleaned] at are
    exact are.parts_ofParts

/-- What can be read off a path without dots between its names: its names, unless it starts with a slash or with two dots.
A dot alone stands for no names. -/
def readClean? (p : Path) : Option String :=
  if p.parts.all fun part => part.isName || part = .here then some (displayParts (p.parts.filter Part.isName)) else none

/-- What is left of a path is read off its clean form alone. -/
theorem inProject?_eq_readClean? (path : String) : inProject? path = readClean? (clean ⟨path⟩) := by
  have noDot := (areParts_cleanParts ⟨path⟩).here_notMem
  rw [readClean?, parts_clean, inProject?]
  generalize cleanParts (Path.parts ⟨path⟩) = parts at noDot
  by_cases none : parts = []
  · rw [none]
    rfl
  · have each : ∀ part ∈ parts, (part.isName || decide (part = .here)) = part.isName := by
      intro part listed
      have other : part ≠ .here := fun same => noDot (same ▸ listed)
      simp [other]
    have alike : (parts.all fun part => part.isName || part = .here) = parts.all Part.isName := by
      rw [List.all_eq, List.all_eq]
      simp +contextual [each]
    rw [if_neg none, alike]
    split
    · rename_i names
      rw [List.filter_eq_self.mpr (List.all_eq_true.mp names)]
    · rfl

end Cleaning

section Forms

variable {path form : String}

/-- What the machine holds at the end is left of the path. -/
theorem inProject?_eq_map_followAll? (path : String) : inProject? path =
    if isAbsolute ⟨path⟩ then none
    else (followAll? (Text.split '/' path)).map fun stack => Text.join "/" stack.reverse := by
  rcases isForm_or_leadsOut path with ⟨form, is⟩ | out
  · obtain ⟨relative, names, leads, spelt⟩ := id is
    rw [is.inProject?_eq, relative, if_neg Bool.false_ne_true, leads.followAll?_eq, Option.map_some,
      List.reverse_reverse, spelt]
  · rw [out.inProject?_eq]
    rcases out with absolute | climbs
    · rw [if_pos absolute]
    · rw [followAll?_eq_none.mpr (overdrawn_iff_climbs.mpr climbs), Option.map_none, ite_self]

theorem inProject?_eq_none : inProject? path = none ↔ isAbsolute ⟨path⟩ = true ∨ Overdrawn (Text.split '/' path) := by
  rw [inProject?_eq_map_followAll?, ← followAll?_eq_none]
  split <;> simp [*]

theorem isForm_of_inProject? (left : inProject? path = some form) : IsForm path form := by
  rcases isForm_or_leadsOut path with ⟨other, is⟩ | out
  · rw [is.inProject?_eq] at left
    exact Option.some.inj left ▸ is
  · rw [out.inProject?_eq] at left
    cases left

/-- Names are followed one by one. -/
theorem leads_of_isName {names : List String} (proper : ∀ name ∈ names, IsName name) : Leads names names := by
  induction names using List.reverseRecOn with
  | nil => exact .start
  | append_singleton names name ih =>
    obtain ⟨earlier, last⟩ := List.forall_mem_append.mp proper
    obtain ⟨some?, notHere, notUp, -⟩ := last name (List.mem_singleton.mpr rfl)
    exact (ih earlier).down (not_or.mpr ⟨some?, notHere⟩) notUp

/-- A form without dots holds the names that are left of the path, in the same order. -/
theorem IsForm.leads (is : IsForm path form) (some? : form ≠ "") : Leads (Text.split '/' path) (Text.split '/' form) := by
  obtain ⟨-, names, leads, rfl⟩ := is
  have proper := leads.isName fun segment cut => by
    obtain ⟨piece, listed, rfl⟩ := List.mem_map.mp cut
    simpa using Text.not_mem_of_mem_segments listed
  have more : names ≠ [] := fun none => some? (by rw [none]; rfl)
  rwa [Text.split_join more fun name listed => (proper name listed).whole]

theorem IsNormal.isForm (normal : IsNormal form) : IsForm form form := by
  have relative := isAbsolute_names normal
  rw [Text.join_split] at relative
  exact ⟨relative, _, leads_of_isName normal, (Text.join_split form).symm⟩

/-- A form without dots is a path that it is the form of. -/
theorem inProject?_form (left : inProject? path = some form) : inProject? form = some form := by
  rcases (isForm_of_inProject? left).normal with rfl | normal
  · rfl
  · exact normal.isForm.inProject?_eq

/-- Behind a path the machine goes on from what it holds behind the form of the path. -/
theorem inProject?_append (left : inProject? path = some form) (some? : form ≠ "") (more : String) :
    inProject? (path ++ "/" ++ more) = inProject? (form ++ "/" ++ more) := by
  have is := isForm_of_inProject? left
  have own := isForm_of_inProject? (inProject?_form left)
  have started : path ≠ "" := by
    rintro rfl
    exact some? (Option.some.inj left).symm
  have absolute : isAbsolute ⟨path ++ "/" ++ more⟩ = isAbsolute ⟨form ++ "/" ++ more⟩ := by
    rw [String.append_assoc, String.append_assoc, isAbsolute_append started, isAbsolute_append some?, is.1, own.1]
  rw [inProject?_eq_map_followAll?, inProject?_eq_map_followAll?, absolute, Text.split_append_slash,
    Text.split_append_slash, followAll?_append, followAll?_append, (is.leads some?).followAll?_eq,
    (own.leads some?).followAll?_eq]

end Forms

/-- What is left of a path is read off its clean form, and it is what the machine holds when it has followed all segments.
Nothing is left exactly if the path starts with a slash or if two dots find the stack empty at some point. A form that is
left has no empty segment and no dots in it, it is its own form, and unless it is that of the project directory it stands
for the path in every path that goes on from there. -/
theorem inProject?_machine (path : String) :
    inProject? path = readClean? (clean ⟨path⟩) ∧
    inProject? path = (if isAbsolute ⟨path⟩ then none
      else (followAll? (Text.split '/' path)).map fun stack => Text.join "/" stack.reverse) ∧
    (inProject? path = none ↔ isAbsolute ⟨path⟩ = true ∨ Overdrawn (Text.split '/' path)) ∧
    ∀ form, inProject? path = some form → (form = "" ∨ IsNormal form) ∧ inProject? form = some form ∧
      (form ≠ "" → ∀ more, inProject? (path ++ "/" ++ more) = inProject? (form ++ "/" ++ more)) :=
  ⟨inProject?_eq_readClean? path, inProject?_eq_map_followAll? path, inProject?_eq_none, fun _ left =>
    ⟨(isForm_of_inProject? left).normal, inProject?_form left, inProject?_append left⟩⟩

theorem inProject?_machine_inside : inProject? "src/./a/..//b" = some "src/b" ∧ inProject? "src/b" = some "src/b" ∧
    inProject? ("src/./a/..//b" ++ "/" ++ "../../c") = inProject? ("src/b" ++ "/" ++ "../../c") := by
  have left : inProject? "src/./a/..//b" = some "src/b" := by decide +kernel
  obtain ⟨-, again, onward⟩ := (inProject?_machine "src/./a/..//b").2.2.2 "src/b" left
  exact ⟨left, again, onward (by decide) "../../c"⟩

/-- A path that leads out and in again is one that leads out. -/
example : inProject? "../src/a" = none ∧ inProject? "src/../a/.." = some "" := by decide +kernel

end Layering.Path
