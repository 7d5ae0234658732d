import Layering.Project
import Layering.Proofs.Discovery.Growth
import Layering.Proofs.Report.Outside
import Layering.Proofs.Tree.Reading

/-! The report on a project in whose tree a file is added that is none of its sources and lies outside of its layers. -/
namespace Layering.Project

/-- Files that the sources, the ignore files and the layers of a project have nothing to do with. From the project
directory at most one of them can be imported. -/
structure Unrelated (project : Project) (added : List String → Prop) (file : String) : Prop where
  spares : Ignore.Spares added
  foreign : ∀ way, added way → way.getLast?.any (Discovery.isSource project.policy.discovery) = false
  only : ∀ path, Path.IsNormal path → added (Discovery.wayTo (project.directory.join ⟨path⟩)) → path = file
  aloof : project.policy.Aloof file

/-- What a project needs of its policy so that a file can be added to its tree. -/
structure Plain (p : Policy) : Prop where
  discovery : Policy.DiscoveryFormed p.discovery
  whole : ∀ extension ∈ p.discovery.extensions, '/' ∉ extension.toList
  unforbidden : p.forbidden = []

variable {project : Project} {added : List String → Prop} {file : String} {t t' : Tree}

theorem forbidden_eq_nil (plain : Plain project.policy) (t : Tree) : project.forbidden t = [] := by
  rw [Project.forbidden, Check.forbiddenIn, plain.unforbidden, List.flatMap_nil]

/-- A path that may be meant by an import is that of a file before and after, but for the file that is added. -/
theorem isKnown_grown (grows : t.Grows added t') (unrelated : project.Unrelated added file)
    (plain : Plain project.policy) {text form other : String} (inside : inProject? text = some form)
    (tried : other ∈ project.policy.candidates form) (some? : other ≠ "") (apart : other ≠ file) (paths : List String) :
    Graph.isKnown project.directory t.reader paths other = Graph.isKnown project.directory t'.reader paths other := by
  have normal : form = "" ∨ Path.IsNormal form := by
    rcases Path.isForm_or_leadsOut text with ⟨form', is⟩ | out
    · obtain rfl := Option.some.inj (inside.symm.trans is.inProject?_eq)
      exact is.normal
    · rw [out.inProject?_eq] at inside
      cases inside
  rw [Policy.candidates_eq_tried] at tried
  have normal' := Policy.isNormal_of_mem_tried plain.discovery plain.whole normal tried some?
  have same := grows.holdsAt_isFile fun isNew => apart (unrelated.only other normal' isNew)
  have files : t.reader.isFile (project.directory.join ⟨other⟩) = t'.reader.isFile (project.directory.join ⟨other⟩) :=
    same
  rw [Graph.isKnown, Graph.isKnown, files]

/-- The report stays the same. -/
theorem report_grown (grows : t.Grows added t') (named : t.WellNamed) (named' : t'.WellNamed) (distinct : t.Distinct)
    (distinct' : t'.Distinct) (unrelated : project.Unrelated added file) (plain : Plain project.policy)
    (absolute : project.directory.isAbsolute = true) {spot : Spot}
    (located : t.locate (project.directory.join project.sourceRoot) = .ok spot) :
    project.report t = project.report t' := by
  obtain ⟨samePaths, issues⟩ := Discovery.find_grown project.exclude project.user project.directory grows unrelated.spares
    unrelated.foreign named named' distinct distinct' located
  have reads : ∀ path ∈ (project.discover t).paths,
      t.reader.read (project.directory.join ⟨path⟩) = t'.reader.read (project.directory.join ⟨path⟩) := by
    intro path found
    obtain ⟨way, bytes, proper, there, rfl⟩ := Discovery.exists_of_mem_paths named distinct located found
    simp only [Tree.reader]
    exact grows.read_eq absolute located proper there
  -- An import may lead to the new file now, or fail no more, but the rules do not see the difference.
  have graphs : (project.graph t (project.discover t).paths).seen =
      (project.graph t' (project.discover t').paths).seen := by
    refine Graph.seen_build samePaths reads fun importer specifier => ?_
    refine Policy.seen_ofResolution unrelated.aloof (fun text form inside other tried some? apart => ?_) importer
      specifier
    exact isKnown_grown grows unrelated plain inside tried some? apart _
  have issues' : (project.discover t).issues = (project.discover t').issues := issues
  simp only [report, reportOn, forbidden_eq_nil plain, issues']
  rw [← Analysis.report_seen, graphs, Analysis.report_seen]

end Layering.Project
