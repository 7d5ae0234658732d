import Layering.Path

/-! Joining, cleaning and displaying paths. What is joined to a base keeps its steps as they are, and as long as they do
not lead out of the base they are cleaned for themselves. What is displayed tells the parts apart. -/
namespace Layering

namespace Text

theorem segments_append_separator {α : Type} [DecidableEq α] (separator : α) (before after : List α) :
    segments separator (before ++ separator :: after) = segments separator before ++ segments separator after := by
  induction before with
  | nil => simp [segments]
  | cons c cs ih =>
    by_cases here : c = separator
    · simp [segments, here, ih]
    · obtain ⟨piece, pieces, cut⟩ := List.exists_cons_of_ne_nil (segments_ne_nil separator cs)
      simp [segments, here, ih, cut]

theorem segments_of_not_mem {α : Type} [DecidableEq α] {separator : α} {cs : List α} (whole : separator ∉ cs) :
    segments separator cs = [cs] := by
  induction cs with
  | nil => rfl
  | cons c cs ih =>
    rw [List.mem_cons, not_or] at whole
    simp [segments, ih whole.2, Ne.symm whole.1]

theorem split_append_slash (before after : String) :
    split '/' (before ++ "/" ++ after) = split '/' before ++ split '/' after := by
  simp [split, segments_append_separator]

/-- Cutting undoes joining where no text holds a slash. -/
theorem split_join {texts : List String} (some? : texts ≠ []) (whole : ∀ text ∈ texts, '/' ∉ text.toList) :
    split '/' (join "/" texts) = texts := by
  induction texts with
  | nil => exact absurd rfl some?
  | cons text texts ih =>
    have first : split '/' text = [text] := by
      simp [split, segments_of_not_mem (whole text List.mem_cons_self)]
    cases texts with
    | nil => exact first
    | cons next texts =>
      rw [join, split_append_slash, first, ih (by simp) fun text later => whole text (List.mem_cons_of_mem _ later)]
      · rfl
      · simp

theorem not_of_head?_dropWhile {α : Type} {p : α → Bool} {as : List α} {a : α}
    (first : (as.dropWhile p).head? = some a) : p a = false := by
  have stop := List.head?_dropWhile_not p as
  rw [first] at stop
  simpa using stop

/-- A list is cut in two at the first place where a condition fails. -/
theorem takeWhile_and_dropWhile_eq {α : Type} {p : α → Bool} {a : α} (stop : p a = false) (as before rest : List α) :
    as.takeWhile p = before ∧ as.dropWhile p = a :: rest ↔ as = before ++ a :: rest ∧ ∀ b ∈ before, p b = true := by
  constructor
  · rintro ⟨rfl, dropped⟩
    exact ⟨by rw [← dropped, List.takeWhile_append_dropWhile], List.all_eq_true.mp List.all_takeWhile⟩
  · rintro ⟨rfl, pass⟩
    rw [List.takeWhile_append_of_pos pass, List.dropWhile_append_of_pos pass]
    simp [stop]

end Text

namespace Path

/-- The parts of a path but for what it starts with. -/
def steps (p : Path) : List Part := (Text.split '/' p.text).filterMap Part.ofSegment?

/-- What a path starts with before its steps: a slash, a dot, or neither. -/
def lead (p : Path) : List Part :=
  if p.isAbsolute then [.root] else if (Text.split '/' p.text).head? = some "." then [.here] else []

theorem parts_eq_lead_append (p : Path) : p.parts = p.lead ++ p.steps := by
  rw [parts, lead]
  split
  · rfl
  · split <;> rfl

theorem of_mem_lead {p : Path} {part : Part} (listed : part ∈ p.lead) : part = .root ∨ part = .here := by
  rw [lead] at listed
  split at listed
  · exact .inl (List.mem_singleton.mp listed)
  · split at listed
    · exact .inr (List.mem_singleton.mp listed)
    · cases listed

theorem map_text_steps (p : Path) :
    p.steps.map Part.text = (Text.split '/' p.text).filter fun s => s ≠ "" && s ≠ "." := by
  rw [steps]
  induction Text.split '/' p.text with
  | nil => rfl
  | cons segment segments ih =>
    by_cases still : segment = "" ∨ segment = "."
    · rcases still with rfl | rfl <;> exact ih
    · rw [not_or] at still
      by_cases up : segment = ".."
      · simp [Part.ofSegment?, Part.text, ih, up]
      · simp [Part.ofSegment?, Part.text, ih, still, up]

/-- A name that an entry of a directory may have. -/
structure IsName (name : String) : Prop where
  some? : name ≠ ""
  notHere : name ≠ "."
  notUp : name ≠ ".."
  whole : '/' ∉ name.toList

instance (name : String) : Decidable (IsName name) :=
  decidable_of_iff (name ≠ "" ∧ name ≠ "." ∧ name ≠ ".." ∧ '/' ∉ name.toList)
    ⟨fun ⟨some?, notHere, notUp, whole⟩ => ⟨some?, notHere, notUp, whole⟩,
      fun ⟨some?, notHere, notUp, whole⟩ => ⟨some?, notHere, notUp, whole⟩⟩

theorem Part.ofSegment?_of_isName {name : String} (proper : IsName name) : ofSegment? name = some (.name name) := by
  simp [ofSegment?, proper.some?, proper.notHere, proper.notUp]

theorem parts_of_isAbsolute {p : Path} (absolute : p.isAbsolute = true) : p.parts = .root :: p.steps := by
  simp [parts, absolute, steps]

theorem mem_steps {p : Path} {part : Part} (step : part ∈ p.steps) :
    part = .up ∨ ∃ name, IsName name ∧ part = .name name := by
  obtain ⟨segment, cut, read⟩ := List.mem_filterMap.mp step
  obtain ⟨piece, listed, rfl⟩ := List.mem_map.mp cut
  have whole : '/' ∉ piece := Text.not_mem_of_mem_segments listed
  simp only [Part.ofSegment?] at read
  split at read
  · cases read
  · split at read
    · exact .inl (Option.some.inj read).symm
    · rename_i notDot notUp
      rw [not_or] at notDot
      exact .inr ⟨_, ⟨notDot.1, notDot.2, notUp, by simpa using whole⟩, (Option.some.inj read).symm⟩

theorem isAbsolute_append {front : String} (some? : front ≠ "") (rest : String) :
    isAbsolute ⟨front ++ rest⟩ = isAbsolute ⟨front⟩ := by
  obtain ⟨c, cs, spelt⟩ := List.exists_cons_of_ne_nil (mt String.toList_eq_nil_iff.mp some?)
  simp [isAbsolute, spelt]

/-- A relative path that is joined to a base starts like the base. -/
theorem isAbsolute_join_of_relative {base p : Path} (some? : base.text ≠ "") (relative : p.isAbsolute = false) :
    (base.join p).isAbsolute = base.isAbsolute := by
  rw [join, relative, if_neg Bool.false_ne_true]
  split
  · exact isAbsolute_append some? p.text
  · rw [String.append_assoc]
    exact isAbsolute_append some? _

theorem isAbsolute_join {base : Path} (absolute : base.isAbsolute = true) (p : Path) :
    (base.join p).isAbsolute = true := by
  cases relative : p.isAbsolute with
  | true => rwa [join, if_pos relative]
  | false =>
    have some? : base.text ≠ "" := fun none => by simp [isAbsolute, none] at absolute
    rw [isAbsolute_join_of_relative some? relative, absolute]

theorem steps_append_slash (before after : String) :
    steps ⟨before ++ "/" ++ after⟩ = steps ⟨before⟩ ++ steps ⟨after⟩ := by
  simp [steps, Text.split_append_slash]

/-- The segments of a relative path stand after those of the base that it is joined to, in place of the empty one at the
end if there is one. -/
theorem exists_split_join {base p : Path} (some? : base.text ≠ "") (relative : p.isAbsolute = false) :
    ∃ before, before ≠ [] ∧ (Text.split '/' base.text = before ∨ Text.split '/' base.text = before ++ [""]) ∧
      Text.split '/' (base.join p).text = before ++ Text.split '/' p.text := by
  obtain ⟨text⟩ := base
  have cut (text : String) : Text.split '/' text ≠ [] := by simp [Text.split, Text.segments_ne_nil]
  rw [join, relative, if_neg Bool.false_ne_true]
  split
  · rename_i bare
    obtain ⟨before, ends⟩ := List.getLast?_eq_some_iff.mp (bare.resolve_left some?)
    have spelt : text = .ofList before ++ "/" := by
      rw [← String.ofList_toList (s := text), ends, String.ofList_append]
    refine ⟨Text.split '/' (.ofList before), cut _, .inr ?_, ?_⟩
    · rw [spelt]
      simpa [Text.split, Text.segments] using Text.split_append_slash (.ofList before) ""
    · rw [spelt, Text.split_append_slash]
  · exact ⟨_, cut text, .inl rfl, Text.split_append_slash text p.text⟩

/-- The steps of a relative path stand after those of the base that it is joined to. -/
theorem steps_join (base : Path) {p : Path} (relative : p.isAbsolute = false) :
    (base.join p).steps = base.steps ++ p.steps := by
  by_cases empty : base.text = ""
  · rw [join, relative, if_neg Bool.false_ne_true, if_pos (.inl empty), steps, steps, empty, String.empty_append]
    simp [steps, Text.split, Text.segments, Part.ofSegment?]
  · obtain ⟨before, -, bare | slash, joined⟩ := exists_split_join empty relative
    · rw [steps, joined, List.filterMap_append, ← bare, steps, steps]
    · rw [steps, steps, joined, slash, List.filterMap_append, List.filterMap_append, steps]
      simp [Part.ofSegment?]

theorem join_empty (p : Path) : join ⟨""⟩ p = p := by
  rw [join]
  split
  · rfl
  · simp

theorem parts_empty : parts ⟨""⟩ = [] := rfl

theorem lead_join {base p : Path} (some? : base.text ≠ "") (relative : p.isAbsolute = false) :
    (base.join p).lead = base.lead := by
  obtain ⟨before, more, cut, joined⟩ := exists_split_join some? relative
  have first : (Text.split '/' (base.join p).text).head? = (Text.split '/' base.text).head? := by
    obtain ⟨segment, rest, rfl⟩ := List.exists_cons_of_ne_nil more
    rcases cut with cut | cut <;> rw [joined, cut] <;> rfl
  rw [lead, lead, isAbsolute_join_of_relative some? relative, first]

/-- Behind a base a relative path keeps its steps. -/
theorem parts_join {base p : Path} (some? : base.text ≠ "") (relative : p.isAbsolute = false) :
    (base.join p).parts = base.parts ++ p.steps := by
  rw [parts_eq_lead_append, parts_eq_lead_append, lead_join some? relative, steps_join base relative, List.append_assoc]

theorem steps_names {names : List String} (proper : ∀ name ∈ names, IsName name) :
    steps ⟨Text.join "/" names⟩ = names.map .name := by
  have each : names.filterMap Part.ofSegment? = names.map .name := by
    induction names with
    | nil => rfl
    | cons name names ih =>
      rw [List.filterMap_cons_some (Part.ofSegment?_of_isName (proper name List.mem_cons_self)),
        ih fun name later => proper name (List.mem_cons_of_mem _ later), List.map_cons]
  cases names with
  | nil => rfl
  | cons name names => rw [steps, Text.split_join (by simp) fun name listed => (proper name listed).whole, each]

theorem isAbsolute_names {names : List String} (proper : ∀ name ∈ names, IsName name) :
    isAbsolute ⟨Text.join "/" names⟩ = false := by
  cases names with
  | nil => rfl
  | cons name names =>
    obtain ⟨some?, -, -, whole⟩ := proper name List.mem_cons_self
    obtain ⟨c, cs, spelt⟩ := List.exists_cons_of_ne_nil (mt String.toList_eq_nil_iff.mp some?)
    have other : c ≠ '/' := by
      rintro rfl
      exact whole (spelt ▸ List.mem_cons_self)
    cases names <;> simp [Text.join, isAbsolute, spelt, other]

@[simp] theorem dropParts?_append (parts more : List Part) : dropParts? parts (parts ++ more) = some more := by
  induction parts with
  | nil => rfl
  | cons part parts ih => simp [dropParts?, ih]

/-- Seen from an absolute base, a path is displayed by the steps that it has more than the base. -/
theorem displayBelow_of_steps {base p : Path} (absolute : base.isAbsolute = true) (absolute' : p.isAbsolute = true)
    {more : List Part} (on : p.steps = base.steps ++ more) : base.displayBelow p = displayParts more := by
  rw [displayBelow, below?, parts_of_isAbsolute absolute, parts_of_isAbsolute absolute', on, ← List.cons_append,
    dropParts?_append]

/-- A list of parts without what a path starts with. -/
def AreSteps (parts : List Part) : Prop := ∀ part ∈ parts, part = .up ∨ ∃ name, IsName name ∧ part = .name name

theorem areSteps (p : Path) : AreSteps p.steps := fun _ => mem_steps

theorem AreSteps.here_notMem {parts : List Part} (steps : AreSteps parts) : .here ∉ parts := by
  intro listed
  rcases steps .here listed with up | ⟨name, -, other⟩
  · cases up
  · cases other

/-- A list of names that lead down. -/
def AreNames (parts : List Part) : Prop := ∀ part ∈ parts, ∃ name, IsName name ∧ part = .name name

theorem AreSteps.names {parts : List Part} (steps : AreSteps parts) (kept : .up ∉ parts) : AreNames parts := by
  intro part step
  rcases steps part step with rfl | proper
  · exact absurd step kept
  · exact proper

/-- Two dots that nothing before takes away stay for good. -/
theorem up_mem_pushClean {stack : List Part} (part : Part) (lost : .up ∈ stack) : .up ∈ pushClean stack part := by
  cases part with
  | here => exact lost
  | root | name => exact List.mem_cons_of_mem _ lost
  | up =>
    cases stack with
    | nil => cases lost
    | cons top stack => cases top <;> simp_all [pushClean]

theorem up_mem_foldl {stack parts : List Part} (lost : .up ∈ stack) : .up ∈ parts.foldl pushClean stack := by
  induction parts generalizing stack with
  | nil => exact lost
  | cons part parts ih => exact ih (up_mem_pushClean part lost)

/-- Steps that never lead out of where they start are cleaned for themselves, whatever stands before them. -/
theorem foldl_pushClean_append {stack parts : List Part} (base : List Part) (names : AreSteps stack)
    (steps : AreSteps parts) (kept : .up ∉ parts.foldl pushClean stack) :
    parts.foldl pushClean (stack ++ base) = parts.foldl pushClean stack ++ base := by
  induction parts generalizing stack with
  | nil => rfl
  | cons part parts ih =>
    obtain ⟨first, later⟩ := List.forall_mem_cons.mp steps
    rcases first with rfl | ⟨name, proper, rfl⟩
    · cases stack with
      | nil =>
        -- The base would lose a part here, but two dots without a name before them are never cleaned away.
        exact absurd (up_mem_foldl (List.mem_singleton.mpr rfl)) kept
      | cons top stack =>
        obtain ⟨above, below⟩ := List.forall_mem_cons.mp names
        rcases above with rfl | ⟨name, proper, rfl⟩
        · exact absurd (up_mem_foldl (List.mem_cons_of_mem _ List.mem_cons_self)) kept
        · exact ih below later kept
    · exact ih (List.forall_mem_cons.mpr ⟨.inr ⟨name, proper, rfl⟩, names⟩) later kept

theorem mem_foldl_pushClean {stack parts : List Part} {part : Part} (left : part ∈ parts.foldl pushClean stack) :
    part ∈ stack ∨ part ∈ parts := by
  induction parts generalizing stack with
  | nil => exact .inl left
  | cons next parts ih =>
    rcases ih left with pushed | later
    · have kept : part ∈ stack ∨ part = next := by
        cases next with
        | here => exact .inl pushed
        | root | name => exact (List.mem_cons.mp pushed).symm
        | up =>
          cases stack with
          | nil => exact .inr (List.mem_singleton.mp pushed)
          | cons top stack => cases top <;> grind [pushClean]
      rcases kept with before | rfl
      · exact .inl before
      · exact .inr List.mem_cons_self
    · exact .inr (List.mem_cons_of_mem _ later)

theorem AreSteps.clean {parts : List Part} (steps : AreSteps parts) : AreSteps (cleanParts parts) := by
  intro part left
  rcases mem_foldl_pushClean (List.mem_reverse.mp left) with nothing | step
  · cases nothing
  · exact steps part step

theorem cleanParts_of_relative {p : Path} (relative : p.isAbsolute = false) :
    cleanParts p.parts = cleanParts p.steps := by
  simp only [parts, relative, Bool.false_eq_true, if_false]
  split <;> rfl

theorem AreNames.cleanParts_eq {parts : List Part} (names : AreNames parts) : cleanParts parts = parts := by
  have pushed (stack : List Part) : parts.foldl pushClean stack = parts.reverse ++ stack := by
    induction parts generalizing stack with
    | nil => rfl
    | cons part parts ih =>
      obtain ⟨⟨name, -, rfl⟩, later⟩ := List.forall_mem_cons.mp names
      rw [List.foldl_cons, ih later]
      simp [pushClean]
  rw [cleanParts, pushed, List.append_nil, List.reverse_reverse]

/-- A path that leads from a directory to one below it, or to the directory itself. -/
structure Inside (p : Path) : Prop where
  relative : p.isAbsolute = false
  kept : .up ∉ cleanParts p.parts

instance (p : Path) : Decidable p.Inside :=
  decidable_of_iff (p.isAbsolute = false ∧ .up ∉ cleanParts p.parts)
    ⟨fun ⟨relative, kept⟩ => ⟨relative, kept⟩, fun ⟨relative, kept⟩ => ⟨relative, kept⟩⟩

theorem Inside.names {p : Path} (inside : p.Inside) : AreNames (cleanParts p.parts) := by
  have kept := inside.kept
  rw [cleanParts_of_relative inside.relative] at kept ⊢
  exact (areSteps p).clean.names kept

/-- What a path that leads inside is joined to does not change how it is cleaned. -/
theorem cleanParts_join {base p : Path} (absolute : base.isAbsolute = true) (inside : p.Inside) :
    cleanParts (base.join p).parts = cleanParts base.parts ++ cleanParts p.parts := by
  have kept := inside.kept
  rw [cleanParts_of_relative inside.relative] at kept ⊢
  have apart := foldl_pushClean_append (base.parts.foldl pushClean []) (List.forall_mem_nil _) (areSteps p)
    (mt List.mem_reverse.mpr kept)
  rw [List.nil_append] at apart
  rw [parts_of_isAbsolute (isAbsolute_join absolute p), steps_join base inside.relative, ← List.cons_append,
    ← parts_of_isAbsolute absolute, cleanParts, List.foldl_append, apart, List.reverse_append, cleanParts, cleanParts]

theorem split_displayParts {parts : List Part} (some? : parts ≠ []) (steps : AreSteps parts) :
    Text.split '/' (displayParts parts) = parts.map Part.text := by
  refine Text.split_join (by simpa using some?) (List.forall_mem_map.mpr fun part step => ?_)
  rcases steps part step with rfl | ⟨name, proper, rfl⟩
  · decide
  · exact proper.whole

theorem Inside.clean_eq {p : Path} (inside : p.Inside) :
    p.clean = if cleanParts p.parts = [] then ⟨"."⟩ else ⟨displayParts (cleanParts p.parts)⟩ := by
  have names := inside.names
  rw [clean]
  cases left : cleanParts p.parts with
  | nil => rfl
  | cons part parts =>
    obtain ⟨name, -, rfl⟩ := names part (left ▸ List.mem_cons_self)
    rfl

theorem AreNames.split_displayParts {parts : List Part} (names : AreNames parts) (some? : parts ≠ []) :
    Text.split '/' (displayParts parts) = parts.map Part.text :=
  Path.split_displayParts some? fun part step => .inr (names part step)

theorem AreNames.map_text {parts : List Part} (names : AreNames parts) :
    (parts.map Part.text).map .name = parts := by
  have each : ∀ part ∈ parts, (Part.name ∘ Part.text) part = part := by
    intro part step
    obtain ⟨name, -, rfl⟩ := names part step
    rfl
  rw [List.map_map, List.map_congr_left each, List.map_id']

theorem AreNames.displayParts_ne_dot {parts : List Part} (names : AreNames parts) (some? : parts ≠ []) :
    displayParts parts ≠ "." := by
  intro same
  have texts := names.split_displayParts some?
  obtain ⟨part, rest, rfl⟩ := List.exists_cons_of_ne_nil some?
  obtain ⟨name, proper, rfl⟩ := names part List.mem_cons_self
  rw [same] at texts
  exact proper.notHere (List.cons.inj texts).1.symm

/-- Paths that lead inside are cleaned to one path exactly if they are cleaned to the same parts. -/
theorem Inside.clean_inj {p q : Path} (inside : p.Inside) (inside' : q.Inside) :
    p.clean = q.clean ↔ cleanParts p.parts = cleanParts q.parts := by
  rw [inside.clean_eq, inside'.clean_eq]
  constructor
  · intro same
    by_cases none : cleanParts p.parts = [] <;> by_cases none' : cleanParts q.parts = []
    · rw [none, none']
    · rw [if_pos none, if_neg none', Path.mk.injEq] at same
      exact absurd same.symm (inside'.names.displayParts_ne_dot none')
    · rw [if_neg none, if_pos none', Path.mk.injEq] at same
      exact absurd same (inside.names.displayParts_ne_dot none)
    · rw [if_neg none, if_neg none', Path.mk.injEq] at same
      rw [← inside.names.map_text, ← inside'.names.map_text, ← inside.names.split_displayParts none,
        ← inside'.names.split_displayParts none', same]
  · intro same
    rw [same]

/-- A path in which names follow each other, each after a single slash. -/
def IsNormal (path : String) : Prop := ∀ segment ∈ Text.split '/' path, IsName segment

theorem isNormal_displayParts {parts : List Part} (some? : parts ≠ []) (steps : AreSteps parts) :
    IsNormal (displayParts parts) ↔ .up ∉ parts := by
  rw [IsNormal, split_displayParts some? steps, List.forall_mem_map]
  constructor
  · intro normal lost
    exact (normal .up lost).notUp rfl
  · intro kept part step
    obtain ⟨name, proper, rfl⟩ := steps.names kept part step
    exact proper

theorem dropParts?_eq_some {parts whole more : List Part} :
    dropParts? parts whole = some more ↔ whole = parts ++ more := by
  constructor
  · intro dropped
    induction parts generalizing whole with
    | nil => exact Option.some.inj dropped
    | cons part parts ih =>
      cases whole with
      | nil => cases dropped
      | cons first whole =>
        rw [dropParts?] at dropped
        split at dropped
        · rename_i same
          rw [same, ih dropped, List.cons_append]
        · cases dropped
  · rintro rfl
    exact dropParts?_append parts more

/-- Displaying steps and cutting the text at its slashes gives them back. -/
theorem AreSteps.steps_displayParts {parts : List Part} (are : AreSteps parts) :
    steps ⟨displayParts parts⟩ = parts := by
  by_cases none : parts = []
  · rw [none]
    rfl
  · rw [steps, split_displayParts none are]
    clear none
    induction parts with
    | nil => rfl
    | cons part parts ih =>
      obtain ⟨first, later⟩ := List.forall_mem_cons.mp are
      have read : Part.ofSegment? part.text = some part := by
        rcases first with rfl | ⟨name, proper, rfl⟩
        · rfl
        · exact Part.ofSegment?_of_isName proper
      rw [List.map_cons, List.filterMap_cons_some read, ih later]

theorem head?_split_of_isAbsolute {p : Path} (absolute : p.isAbsolute = true) :
    (Text.split '/' p.text).head? = some "" := by
  have start : p.text.toList.head? = some '/' := by simpa [isAbsolute] using absolute
  obtain ⟨rest, spelt⟩ := List.head?_eq_some_iff.mp start
  simp [Text.split, spelt, Text.segments]

/-- A path that starts with a name has no parts but its steps. -/
theorem parts_eq_steps {path : String} (start : ∀ segment ∈ (Text.split '/' path).head?, IsName segment) :
    parts ⟨path⟩ = steps ⟨path⟩ := by
  have relative : ¬isAbsolute ⟨path⟩ = true := fun absolute =>
    (start "" (head?_split_of_isAbsolute absolute)).some? rfl
  have named : ¬(Text.split '/' path).head? = some "." := fun dot => (start "." dot).notHere rfl
  rw [parts, if_neg relative, if_neg named, steps]

/-- Parts of a path that does not start with a dot. -/
inductive AreParts : List Part → Prop
  | relative {parts : List Part} (steps : AreSteps parts) : AreParts parts
  | absolute {parts : List Part} (steps : AreSteps parts) : AreParts (.root :: parts)

/-- A path is displayed so that its parts can be read off. -/
theorem AreParts.parts_displayParts {parts : List Part} (are : AreParts parts) :
    Path.parts ⟨displayParts parts⟩ = parts := by
  cases are with
  | relative steps =>
    cases parts with
    | nil => rfl
    | cons part rest =>
      have head : (Text.split '/' (displayParts (part :: rest))).head? = some part.text := by
        rw [split_displayParts (by simp) steps, List.map_cons, List.head?_cons]
      obtain ⟨some?, notHere⟩ : part.text ≠ "" ∧ part.text ≠ "." := by
        rcases steps part List.mem_cons_self with rfl | ⟨name, proper, rfl⟩
        · decide
        · exact ⟨proper.some?, proper.notHere⟩
      have relative : ¬isAbsolute ⟨displayParts (part :: rest)⟩ = true := fun absolute =>
        some? (Option.some.inj ((head?_split_of_isAbsolute absolute).symm.trans head)).symm
      rw [Path.parts, if_neg relative, head, if_neg (by simp [notHere])]
      exact steps.steps_displayParts
  | @absolute parts steps =>
    cases parts with
    | nil => decide
    | cons part rest =>
      have spelt : displayParts (.root :: part :: rest) = "/" ++ "/" ++ displayParts (part :: rest) := rfl
      have absolute : isAbsolute ⟨displayParts (.root :: part :: rest)⟩ = true := by
        simp [isAbsolute, spelt]
      rw [parts_of_isAbsolute absolute, spelt, steps_append_slash, steps.steps_displayParts]
      rfl

/-- What a path has more than a base is steps, unless the base is empty. -/
theorem steps_of_below? {base p : Path} (absolute : p.isAbsolute = true) {more : List Part}
    (below : base.below? p = some more) : base.parts = [] ∧ more = p.parts ∨ AreSteps more := by
  have whole := dropParts?_eq_some.mp below
  cases start : base.parts with
  | nil => exact .inl ⟨rfl, by rw [whole, start, List.nil_append]⟩
  | cons part rest =>
    rw [start, parts_of_isAbsolute absolute, List.cons_append, List.cons.injEq] at whole
    exact .inr fun step listed => areSteps p step (whole.2 ▸ List.mem_append_right rest listed)

theorem parts_displayBelow (base : Path) {p : Path} (absolute : p.isAbsolute = true) :
    Path.parts ⟨base.displayBelow p⟩ = (base.below? p).getD p.parts := by
  have own : AreParts p.parts := parts_of_isAbsolute absolute ▸ .absolute (areSteps p)
  rw [displayBelow]
  cases below : base.below? p with
  | none => exact own.parts_displayParts
  | some more =>
    rcases steps_of_below? absolute below with ⟨-, rfl⟩ | steps
    · exact own.parts_displayParts
    · exact (AreParts.relative steps).parts_displayParts

/-- No path below a base looks like one elsewhere: what it has more does not start with a slash. -/
theorem below?_ne_parts {base p q : Path} (absolute : p.isAbsolute = true) (absolute' : q.isAbsolute = true)
    (elsewhere : base.below? q = none) : base.below? p ≠ some q.parts := by
  intro below
  rcases steps_of_below? absolute below with ⟨empty, -⟩ | steps
  · rw [below?, empty, dropParts?] at elsewhere
    cases elsewhere
  · have root : Part.root ∈ q.parts := parts_of_isAbsolute absolute' ▸ List.mem_cons_self
    rcases steps .root root with up | ⟨name, -, other⟩
    · cases up
    · cases other

/-- Seen from a base, absolute paths to different places are displayed differently. -/
theorem displayBelow_inj {base p q : Path} (absolute : p.isAbsolute = true) (absolute' : q.isAbsolute = true)
    (same : base.displayBelow p = base.displayBelow q) : p.parts = q.parts := by
  have read : (base.below? p).getD p.parts = (base.below? q).getD q.parts := by
    rw [← parts_displayBelow base absolute, ← parts_displayBelow base absolute', same]
  cases below : base.below? p with
  | none =>
    cases below' : base.below? q with
    | none => simpa [below, below'] using read
    | some more =>
      simp only [below, below', Option.getD_none, Option.getD_some] at read
      exact absurd (read ▸ below') (below?_ne_parts absolute' absolute below)
  | some more =>
    cases below' : base.below? q with
    | none =>
      simp only [below, below', Option.getD_none, Option.getD_some] at read
      exact absurd (read ▸ below) (below?_ne_parts absolute absolute' below')
    | some more' =>
      simp only [below, below', Option.getD_some] at read
      rw [dropParts?_eq_some.mp below, dropParts?_eq_some.mp below', read]

/-- Steps that start from the topmost directory never lead out of it. -/
theorem foldl_pushClean_root {names parts : List Part} (proper : AreNames names) (steps : AreSteps parts) :
    ∃ names', AreNames names' ∧ parts.foldl pushClean (names ++ [.root]) = names' ++ [.root] := by
  induction parts generalizing names with
  | nil => exact ⟨names, proper, rfl⟩
  | cons part parts ih =>
    obtain ⟨first, later⟩ := List.forall_mem_cons.mp steps
    rcases first with rfl | ⟨name, proper', rfl⟩
    · cases names with
      | nil => exact ih proper later
      | cons top names =>
        obtain ⟨⟨name, -, rfl⟩, below⟩ := List.forall_mem_cons.mp proper
        exact ih below later
    · exact ih (List.forall_mem_cons.mpr ⟨⟨name, proper', rfl⟩, proper⟩) later

theorem cleanParts_of_isAbsolute {p : Path} (absolute : p.isAbsolute = true) :
    ∃ names, AreNames names ∧ cleanParts p.parts = .root :: names := by
  obtain ⟨names, proper, cleaned⟩ := foldl_pushClean_root (List.forall_mem_nil _) (areSteps p)
  refine ⟨names.reverse, fun part listed => proper part (List.mem_reverse.mp listed), ?_⟩
  have stack : p.parts.foldl pushClean [] = names ++ [.root] := by
    rw [parts_of_isAbsolute absolute]
    exact cleaned
  rw [cleanParts, stack, List.reverse_append, List.reverse_singleton, List.singleton_append]

/-- A clean path is the one that its parts are cleaned to. -/
theorem cleanParts_clean {p : Path} (absolute : p.isAbsolute = true) :
    p.clean.isAbsolute = true ∧ cleanParts p.clean.parts = cleanParts p.parts := by
  obtain ⟨names, proper, cleaned⟩ := cleanParts_of_isAbsolute absolute
  have steps : AreSteps names := fun part listed => .inr (proper part listed)
  have clean_eq : p.clean = ⟨"" ++ "/" ++ displayParts names⟩ := by
    rw [clean, cleaned]
    rfl
  have absolute' : p.clean.isAbsolute = true := by simp [clean_eq, isAbsolute]
  have parts : p.clean.parts = .root :: names := by
    rw [parts_of_isAbsolute absolute', clean_eq, steps_append_slash, steps.steps_displayParts]
    rfl
  refine ⟨absolute', ?_⟩
  have kept : .up ∉ names.foldl pushClean [] := fun up => by
    rcases mem_foldl_pushClean up with nothing | listed
    · cases nothing
    · obtain ⟨name, -, other⟩ := proper .up listed
      cases other
  have apart := foldl_pushClean_append [.root] (List.forall_mem_nil _) steps kept
  calc cleanParts p.clean.parts = (names.foldl pushClean ([] ++ [.root])).reverse := by rw [parts]; rfl
    _ = .root :: cleanParts names := by rw [apart, List.reverse_append]; rfl
    _ = cleanParts p.parts := by rw [proper.cleanParts_eq, cleaned]

theorem isAbsolute_of_root_mem {p : Path} (root : .root ∈ p.parts) : p.isAbsolute = true := by
  have steps : .root ∉ p.steps := fun listed => by
    rcases mem_steps listed with up | ⟨name, -, other⟩
    · cases up
    · cases other
  cases absolute : p.isAbsolute with
  | true => rfl
  | false =>
    rw [parts, absolute, if_neg Bool.false_ne_true] at root
    split at root
    · exact absurd ((List.mem_cons.mp root).resolve_left nofun) steps
    · exact absurd root steps

theorem steps_eq_parts {p : Path} (are : AreSteps p.parts) : p.isAbsolute = false ∧ p.steps = p.parts := by
  have relative : ¬p.isAbsolute = true := fun absolute => by
    rcases are .root (parts_of_isAbsolute absolute ▸ List.mem_cons_self) with up | ⟨name, -, other⟩
    · cases up
    · cases other
  refine ⟨by simpa using relative, ?_⟩
  have head : (Text.split '/' p.text).head? ≠ some "." := fun dot => by
    rw [parts, if_neg relative, if_pos dot] at are
    rcases are .here List.mem_cons_self with up | ⟨name, -, other⟩
    · cases up
    · cases other
  rw [parts, if_neg relative, if_neg head, steps]

/-- What is displayed of a path from a base leads there again. -/
theorem steps_join_displayBelow {base p : Path} (absolute : base.isAbsolute = true) (absolute' : p.isAbsolute = true) :
    (base.join ⟨base.displayBelow p⟩).steps = p.steps := by
  have shown := parts_displayBelow base absolute'
  cases below : base.below? p with
  | none =>
    rw [below, Option.getD_none, parts_of_isAbsolute absolute'] at shown
    have top : isAbsolute ⟨base.displayBelow p⟩ = true := isAbsolute_of_root_mem (shown ▸ List.mem_cons_self)
    rw [parts_of_isAbsolute top, List.cons.injEq] at shown
    rw [join, if_pos top, shown.2]
  | some more =>
    rw [below, Option.getD_some] at shown
    have whole := dropParts?_eq_some.mp below
    rw [parts_of_isAbsolute absolute, parts_of_isAbsolute absolute', List.cons_append, List.cons.injEq] at whole
    have are : AreSteps more := fun part listed => areSteps p part (whole.2 ▸ List.mem_append_right _ listed)
    obtain ⟨relative, steps⟩ := steps_eq_parts (shown ▸ are)
    rw [steps_join base relative, steps, shown, whole.2]

theorem Part.text_of_ofSegment? {segment : String} {part : Part} (read : ofSegment? segment = some part) :
    part.text = segment := by
  simp only [ofSegment?] at read
  split at read
  · cases read
  · split at read
    · rename_i up
      rw [up, ← Option.some.inj read, text]
    · rw [← Option.some.inj read, text]

end Path

end Layering
