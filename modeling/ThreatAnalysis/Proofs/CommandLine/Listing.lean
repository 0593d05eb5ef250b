import ThreatAnalysis.Proofs.CommandLine.Choosing
import ThreatAnalysis.Proofs.CommandLine.Legibility
import ThreatAnalysis.Proofs.CommandLine.Tables
import ThreatAnalysis.Proofs.Diagram.Templates

/-!
The command that lists templates. Words ask for the listing of a directory however its options are
spelled and ordered (`AsksListing`), and a directory is never refused (`read_of_asksListing`). The
files in it can end the listing in three ways only: by a document that is nested too deep, and, in a
table, by a template with a title that is neither a text nor null, or by a line that cannot be
written (`Listable`), which no line is if the texts of the templates can be written
(`listable_of_legible`). In every other case the run succeeds, and shows each template of the
directory (`endsListing_templates`).
-/
namespace ThreatAnalysis
open Markup (Tagless)

namespace FileTree
variable {tree : FileTree} {name : String}

/-- The name of a directory has no null characters. -/
theorem null_notMem_of_isDirectory (reached : tree.isDirectory (.ofString name) = .ok true) :
    '\x00' ∉ name.toList := by
  intro member
  have written := Path.mem_toString_ofString (by decide) (by decide) member
  have refused : textFault? (Path.ofString name).toString = some .nullInPath := by
    unfold textFault?
    rw [if_pos (by simpa using written)]
  have located := (locate_of_isDirectory reached).1
  unfold locate followText at located
  simp [refused] at located

/-- The name of a directory does not lead to a file, however it is written. -/
theorem named_ne_file (reached : tree.isDirectory (.ofString name) = .ok true) (content : Content) :
    tree.named name ≠ .ok (.file content) := by
  have held := (locate_of_isDirectory reached).2
  -- Dots are steps that lead nowhere else, so that both spellings lead to one location.
  have arrived : (Path.steps name).foldl stepTo (start (Path.anchorOf name.toList)) =
      destination (.ofString name) := by
    unfold destination Path.ofString
    rw [List.foldl_filter]
    congr 1
    funext location step
    by_cases here : step = "." <;> simp [stepTo, here]
  intro found
  unfold named followText at found
  split at found
  · cases found
  · dsimp only at found
    cases fault : textFault? name with
    | some cause => simp [fault, bind, Except.bind] at found
    | none =>
      cases followed : tree.follow (start (Path.anchorOf name.toList)) (Path.steps name) with
      | error cause => simp [fault, followed, bind, Except.bind] at found
      | ok location =>
        obtain rfl := (eq_of_follow followed).trans arrived
        simp [fault, followed, held, bind, Except.bind] at found

end FileTree

namespace Template
variable {template : Template}

/-- A template with a summary in which the title is neither a text nor null. -/
def Untitled (template : Template) : Prop :=
  ∃ summary title, template.document.get? "summary" = some (.object summary) ∧
    Fields.get? summary "title" = some title ∧ title ≠ .null ∧ ∀ text, title ≠ .string text

theorem title?_eq_none_iff : template.title? = none ↔ Untitled template := by
  unfold title? Untitled
  split
  case h_1 summary held =>
    simp only [held, Option.some.injEq, Json.object.injEq, exists_and_left, exists_eq_left']
    split
    case h_1 absent => simp [absent]
    case h_2 absent => simp [absent]
    case h_3 text titled => simp [titled]
    case h_4 title noNull noText titled =>
      simp only [titled, Option.some.injEq, true_iff]
      exact ⟨title, rfl, noNull, noText⟩
  case h_2 summary noObject held =>
    refine iff_of_false nofun ?_
    rintro ⟨fields, -, same, -⟩
    rw [held] at same
    exact noObject fields (Option.some.inj same)
  case h_3 absent => simp [absent]

/-- The texts with which a template is shown have no tags. -/
structure Unmarked (template : Template) : Prop where
  fileName : Tagless template.fileName.toList
  title : ∀ title, template.title? = some title → Tagless title.toList

theorem Unmarked.id (unmarked : Unmarked template) (named : Path.IsDocumentName template.fileName) :
    Tagless template.id.toList := by
  obtain ⟨stem, given, spelled⟩ := named
  have whole := unmarked.fileName
  rw [spelled, String.toList_append] at whole
  rw [id_eq given spelled]
  exact whole.of_append_left

/-- The texts with which a template is shown can be written. -/
structure Legible [Platform] (template : Template) : Prop where
  fileName : Terminal.isWritable template.fileName = true
  title : ∀ title, template.title? = some title → Terminal.isWritable title = true

theorem Legible.id [Platform] (legible : Legible template)
    (named : Path.IsDocumentName template.fileName) : Terminal.isWritable template.id = true := by
  obtain ⟨stem, given, spelled⟩ := named
  have whole := legible.fileName
  rw [spelled, Terminal.isWritable_append, Bool.and_eq_true] at whole
  rw [id_eq given spelled]
  exact whole.1

end Template

namespace Invocation
variable {files : FileTree} {words : List String} {name : String} {asJson : Bool}

/-- Words behind `templates` ask for the listing of a directory, in whatever way. -/
def AsksListing (words : List String) (name : String) (asJson : Bool) : Prop :=
  ∃ scan, Scan.ofWords templatesSpellings true words = .ok scan ∧
    scan.argument? .directory = some name ∧ scan.mentions .json = asJson ∧
    scan.mentions .help = false ∧ scan.words = []

/-- There are words for the listing of each directory. -/
theorem asksListing_words (name : String) (asJson : Bool) :
    AsksListing ("--dir" :: name :: if asJson then ["--json"] else []) name asJson := by
  have takesDirectory : Scan.TakesNext templatesSpellings "--dir" .directory :=
    ⟨by decide, by decide, by with_unfolding_all rfl⟩
  have completesJson : Scan.Completes templatesSpellings "--json" ⟨.json, .switch true⟩ :=
    ⟨by decide, by decide, by with_unfolding_all rfl⟩
  have nothing : Scan.ofWords templatesSpellings true [] = .ok ⟨[], []⟩ := rfl
  cases asJson with
  | false => exact ⟨_, takesDirectory.ofWords_eq nothing name, rfl, rfl, rfl, rfl⟩
  | true =>
    have switched := completesJson.ofWords_eq nothing
    exact ⟨_, takesDirectory.ofWords_eq switched name, rfl, rfl, rfl, rfl⟩

/-- A directory is not refused. -/
theorem read_of_asksListing (asks : AsksListing words name asJson)
    (reached : files.isDirectory (.ofString name) = .ok true) :
    Invocation.read files ("templates" :: words) =
      .ok (.templates (some (.ofString name)) asJson) := by
  obtain ⟨scan, scanned, directory, json, noHelp, noWords⟩ := asks
  have fit : pathProblem? files directoryFault? name = none := by
    rw [pathProblem?_eq (FileTree.null_notMem_of_isDirectory reached)]
    unfold directoryFault?
    split
    case h_1 content found => exact absurd found (FileTree.named_ne_file reached content)
    case h_2 => rfl
  have first : scan.firstProblem? (fun option =>
      ((scan.argument? option).bind (templatesProblem? files option)).map
        (valueError templatesSpellings option)) = none := by
    refine List.findSome?_eq_none_iff.mpr fun option _ => ?_
    cases option with
    | directory => simp [directory, templatesProblem?, fit]
    | json => simp [templatesProblem?]
    | help => simp [templatesProblem?]
  rw [read_templates, readTemplates, scanned]
  simp only [Except.mapError, bind, Except.bind, noHelp, finish, first, directory, json, noWords]
  rfl

end Invocation

namespace CommandLine
open Template (Held Untitled)
variable {files : FileTree} {found : List Template} {directory : Path} {asJson : Bool}

theorem templateRow_error {template : Template} {failure : RunFailure}
    (failed : templateRow template = .error failure) :
    failure = .title template.fileName ∧ Untitled template := by
  unfold templateRow at failed
  split at failed
  · cases failed
  · exact ⟨(Except.error.inj failed).symm, Template.title?_eq_none_iff.mp ‹_›⟩

theorem templateRow_ok {template : Template} {cells : List String}
    (succeeded : templateRow template = .ok cells) :
    ∃ title, template.title? = some title ∧ cells = [template.id, title, template.fileName] := by
  unfold templateRow at succeeded
  split at succeeded
  · exact ⟨_, ‹_›, (Except.ok.inj succeeded).symm⟩
  · cases succeeded

/-- Templates with titles have a row each. -/
theorem exists_rows (titled : ∀ template ∈ found, ¬Untitled template) :
    ∃ rows, found.mapM templateRow = .ok rows := by
  refine exists_mapM_iff.mpr fun template listed => ?_
  cases made : templateRow template with
  | ok cells => exact ⟨cells, rfl⟩
  | error failure => exact absurd (templateRow_error made).2 (titled template listed)

/-- The texts in the row of a template are its identifier, its title and its file name. -/
theorem mem_row {rows : List (List String)} {cells : List String} {text : String}
    (read : found.mapM templateRow = .ok rows) (within : cells ∈ rows) (listed : text ∈ cells) :
    ∃ template ∈ found, ∃ title, template.title? = some title ∧
      (text = template.id ∨ text = title ∨ text = template.fileName) := by
  obtain ⟨template, member, made⟩ := exists_of_mem_mapM read within
  obtain ⟨title, entitled, rfl⟩ := templateRow_ok made
  exact ⟨template, member, title, entitled, by simpa using listed⟩

theorem tagless_of_mem_row {rows : List (List String)} {cells : List String} {text : String}
    (named : ∀ template ∈ found, Path.IsDocumentName template.fileName)
    (unmarked : ∀ template ∈ found, template.Unmarked)
    (read : found.mapM templateRow = .ok rows) (within : cells ∈ rows) (listed : text ∈ cells) :
    Tagless text.toList := by
  obtain ⟨template, member, title, entitled, rfl | rfl | rfl⟩ := mem_row read within listed
  · exact (unmarked template member).id (named template member)
  · exact (unmarked template member).title _ entitled
  · exact (unmarked template member).fileName

section
variable [Platform]

/-- The row of headings and those of templates are drawn as blocks of lines, in columns of some
widths. -/
def Drawn (found : List Template) (widths : List Nat) (blocks : List (List String)) : Prop :=
  ∃ rows, found.mapM templateRow = .ok rows ∧
    Terminal.columnWidths (["Id", "Title", "File"] :: rows) = .ok widths ∧
    Terminal.draw (["Id", "Title", "File"] :: rows) = .ok blocks

/-- A block of lines in columns of some widths shows a template. -/
def ShowsTemplate (widths : List Nat) (template : Template) (block : List String) : Prop :=
  block ≠ [] ∧ ∃ title, template.title? = some title ∧
    Terminal.row widths [template.id, title, template.fileName] = .ok block

/-- What is printed for templates: a document with one element for each of them, or a table with one
row for each of them. -/
inductive Lists (found : List Template) : Bool → List String → Prop where
  | document : Lists found true [(Json.array (found.map Template.write)).render (.indented 2)]
  | nothing (none : found = []) : Lists found false ["No templates found."]
  | table {widths : List Nat} {heading : List String} {blocks : List (List String)}
      (some : found ≠ []) (drawn : Drawn found widths (heading :: blocks))
      (headed : Terminal.row widths ["Id", "Title", "File"] = .ok heading)
      (rows : List.Forall₂ (ShowsTemplate widths) found blocks) :
      Lists found false
        (("Templates (" ++ toString found.length ++ ")") :: (heading ++ blocks.flatten))

/-- Nothing in a directory ends a listing: no document is nested too deep, and, for a table, no
template is without a title that can be shown, and no line has half a pair. -/
structure Listable (files : FileTree) (directory : Path) (asJson : Bool) : Prop where
  shallow : ∀ fileName, Path.IsDocumentName fileName →
    ¬files.HoldsDeepText (directory.child fileName)
  titled : asJson = false → ∀ template, Held files directory template → ¬Untitled template
  legible : asJson = false → ∀ found, Template.list files directory = .ok found →
    ∀ widths blocks, Drawn found widths blocks →
      ∀ line ∈ blocks.flatten, Terminal.isWritable line = true

/-- How a listing ends. It succeeds if nothing in the files of the directory ends it, and then shows
their templates. Otherwise it fails in a way that nothing provides for. -/
structure EndsListing (files : FileTree) (directory : Path) (asJson : Bool)
    (outcome : RunOutcome) : Prop where
  unchanged : outcome.files = files
  succeeds_iff : outcome.exitCode = 0 ↔ Listable files directory asJson
  shows : outcome.exitCode = 0 → outcome.failure = none ∧
    ∃ found, Template.list files directory = .ok found ∧ Lists found asJson outcome.printed
  fails : outcome.exitCode ≠ 0 → outcome.exitCode = 1 ∧ outcome.printed = [] ∧
    ∃ failure, outcome.failure = some failure ∧ failure.unexpected?.isSome

theorem rows_shown {widths : List Nat} {rows : List (List String)} {blocks : List (List String)}
    (made : List.Forall₂ (fun template cells => templateRow template = .ok cells) found rows)
    (drawn : List.Forall₂ (fun cells block => Terminal.row widths cells = .ok block ∧
      (cells ≠ [] → block ≠ [])) rows blocks) :
    List.Forall₂ (ShowsTemplate widths) found blocks := by
  induction made generalizing blocks with
  | nil =>
    rw [List.forall₂_nil_left_iff.mp drawn]
    exact .nil
  | cons first _ ih =>
    obtain ⟨block, below, ⟨shown, some⟩, others, rfl⟩ := List.forall₂_cons_left_iff.mp drawn
    obtain ⟨title, entitled, rfl⟩ := templateRow_ok first
    exact .cons ⟨some (List.cons_ne_nil _ _), title, entitled, shown⟩ (ih others)

theorem headings_plain : ∀ text ∈ ["Id", "Title", "File"],
    Tagless text.toList ∧ Terminal.isWritable text = true := by
  have bare : ∀ text ∈ ["Id", "Title", "File"], '[' ∉ text.toList := by decide
  have own : ∀ text ∈ ["Id", "Title", "File"], text.toList.all isOwnCharacter = true := by decide
  exact fun text listed =>
    ⟨Markup.tagless_of_notMem (bare text listed), Terminal.isWritable_of_own (own text listed)⟩

theorem isWritable_of_mem_row {rows : List (List String)} {cells : List String} {text : String}
    (named : ∀ template ∈ found, Path.IsDocumentName template.fileName)
    (legible : ∀ template ∈ found, template.Legible)
    (read : found.mapM templateRow = .ok rows) (within : cells ∈ rows) (listed : text ∈ cells) :
    Terminal.isWritable text = true := by
  obtain ⟨template, member, title, entitled, rfl | rfl | rfl⟩ := mem_row read within listed
  · exact (legible template member).id (named template member)
  · exact (legible template member).title _ entitled
  · exact (legible template member).fileName

/-- Templates with titles are drawn, with a block of lines for each of them. -/
theorem exists_drawn (titled : ∀ template ∈ found, ¬Untitled template)
    (named : ∀ template ∈ found, Path.IsDocumentName template.fileName)
    (unmarked : ∀ template ∈ found, template.Unmarked) :
    ∃ widths heading blocks, Drawn found widths (heading :: blocks) ∧
      Terminal.row widths ["Id", "Title", "File"] = .ok heading ∧
      List.Forall₂ (ShowsTemplate widths) found blocks := by
  obtain ⟨rows, read⟩ := exists_rows titled
  have tagless : ∀ cells ∈ ["Id", "Title", "File"] :: rows, ∀ text ∈ cells,
      Tagless text.toList := by
    rw [List.forall_mem_cons]
    exact ⟨fun text listed => (headings_plain text listed).1,
      fun cells within text listed => tagless_of_mem_row named unmarked read within listed⟩
  obtain ⟨widths, blocks, measured, shown, drawn⟩ := Terminal.draw_tagless tagless
  obtain ⟨heading, below, ⟨headed, -⟩, others, rfl⟩ := List.forall₂_cons_left_iff.mp drawn
  exact ⟨widths, heading, below, ⟨rows, read, measured, shown⟩, headed,
    rows_shown (mapM_ok_iff.mp read) others⟩

/-- The lines for templates can be written if their texts can. -/
theorem isWritable_of_drawn (named : ∀ template ∈ found, Path.IsDocumentName template.fileName)
    (unmarked : ∀ template ∈ found, template.Unmarked)
    (legible : ∀ template ∈ found, template.Legible) (drawn : Drawn found widths blocks)
    {line : String} (listed : line ∈ blocks.flatten) : Terminal.isWritable line = true := by
  obtain ⟨rows, read, -, shown⟩ := drawn
  refine Terminal.isWritable_of_draw ?_ shown listed
  rw [List.forall_mem_cons]
  exact ⟨headings_plain, fun cells within text given =>
    ⟨tagless_of_mem_row named unmarked read within given,
      isWritable_of_mem_row named legible read within given⟩⟩

theorem Drawn.unique {others : List (List String)} (drawn : Drawn found widths blocks)
    (also : Drawn found otherWidths others) : blocks = others := by
  obtain ⟨rows, read, -, shown⟩ := drawn
  obtain ⟨_, again, -, alike⟩ := also
  obtain rfl := Except.ok.inj (read.symm.trans again)
  exact Except.ok.inj (shown.symm.trans alike)

/-- Lines that can be written are shown under the number of templates. -/
theorem templateTable_written (drawn : Drawn found widths blocks)
    (written : ∀ line ∈ blocks.flatten, Terminal.isWritable line = true) :
    templateTable files found =
      ⟨files, ("Templates (" ++ toString found.length ++ ")") :: blocks.flatten, none⟩ := by
  obtain ⟨rows, read, -, shown⟩ := drawn
  unfold templateTable RunOutcome.table
  simp only [read, Terminal.table_of_writable shown written]

/-- A line that cannot be written ends a table as a whole. -/
theorem templateTable_unwritten (drawn : Drawn found widths blocks) {line : String}
    (listed : line ∈ blocks.flatten) (unwritten : Terminal.isWritable line = false) :
    ∃ failure, templateTable files found = .failed files (.shown failure) := by
  obtain ⟨rows, read, -, shown⟩ := drawn
  obtain ⟨failure, failed⟩ := Terminal.table_of_unwritable shown listed unwritten
    ("Templates (" ++ toString found.length ++ ")")
  refine ⟨failure, ?_⟩
  unfold templateTable RunOutcome.table
  simp only [read, failed]

/-- A template without a title that can be shown ends a table before it is begun. -/
theorem templateTable_untitled (files : FileTree) {template : Template}
    (listed : template ∈ found) (untitled : Untitled template) :
    ∃ fileName, templateTable files found = .failed files (.title fileName) := by
  cases made : found.mapM templateRow with
  | ok rows =>
    obtain ⟨cells, succeeded⟩ := exists_mapM_iff.mp ⟨rows, made⟩ template listed
    obtain ⟨title, entitled, -⟩ := templateRow_ok succeeded
    rw [Template.title?_eq_none_iff.mpr untitled] at entitled
    cases entitled
  | error failure =>
    obtain ⟨other, -, failed⟩ := exists_of_mapM_error made
    obtain ⟨rfl, -⟩ := templateRow_error failed
    unfold templateTable
    rw [made]
    exact ⟨other.fileName, rfl⟩

theorem shown_nothing (files : FileTree) :
    RunOutcome.shown files ["[yellow]No templates found.[/yellow]"] =
      ⟨files, ["No templates found."], none⟩ := by
  have read : Markup.shown "[yellow]No templates found.[/yellow]" = .ok "No templates found." := by
    with_unfolding_all rfl
  have written : Terminal.isWritable "[yellow]No templates found.[/yellow]" = true :=
    Terminal.isWritable_of_own (by decide)
  have stacked : Terminal.stack ["[yellow]No templates found.[/yellow]"] =
      (["No templates found."], none) := by
    simp only [Terminal.stack, Terminal.shown, read, written]
    rfl
  unfold RunOutcome.shown
  rw [stacked]
  rfl

theorem endsListing_of_shown {lines : List String} (listable : Listable files directory asJson)
    (listed : Template.list files directory = .ok found) (lists : Lists found asJson lines) :
    EndsListing files directory asJson ⟨files, lines, none⟩ where
  unchanged := rfl
  succeeds_iff := iff_of_true rfl listable
  shows _ := ⟨rfl, found, listed, lists⟩
  fails failed := absurd rfl failed

theorem endsListing_of_failed {failure : RunFailure} (unexpected : failure.unexpected?.isSome)
    (cause : ¬Listable files directory asJson) :
    EndsListing files directory asJson (.failed files failure) := by
  have code : (RunOutcome.failed files failure).exitCode = 1 := by
    cases failure with
    | usage error => cases unexpected
    | _ => rfl
  exact {
    unchanged := rfl
    succeeds_iff := iff_of_false (by rw [code]; decide) cause
    shows := fun succeeded => absurd (code.symm.trans succeeded) (by decide)
    fails := fun _ => ⟨code, rfl, failure, rfl, unexpected⟩ }

/-- A table of templates with titles depends on its lines alone. -/
theorem endsListing_templateTable (some : found ≠ [])
    (listed : Template.list files directory = .ok found)
    (drawn : Drawn found widths (heading :: blocks))
    (headed : Terminal.row widths ["Id", "Title", "File"] = .ok heading)
    (rows : List.Forall₂ (ShowsTemplate widths) found blocks)
    (listable : (∀ line ∈ (heading :: blocks).flatten, Terminal.isWritable line = true) →
      Listable files directory false) :
    EndsListing files directory false (templateTable files found) := by
  by_cases written : ∀ line ∈ (heading :: blocks).flatten, Terminal.isWritable line = true
  · rw [templateTable_written drawn written]
    exact endsListing_of_shown (listable written) listed (.table some drawn headed rows)
  · obtain ⟨line, within, unwritten⟩ : ∃ line ∈ (heading :: blocks).flatten,
        Terminal.isWritable line = false := by simpa using written
    obtain ⟨failure, failed⟩ := templateTable_unwritten drawn within unwritten
    rw [failed]
    refine endsListing_of_failed rfl fun listable => ?_
    rw [listable.legible rfl found listed widths _ drawn line within] at unwritten
    cases unwritten

theorem endsListing_showTemplates
    (shallow : ∀ fileName, Path.IsDocumentName fileName →
      ¬files.HoldsDeepText (directory.child fileName))
    (listed : Template.list files directory = .ok found)
    (held : ∀ template, template ∈ found ↔ Held files directory template)
    (unmarked : asJson = false → ∀ template, Held files directory template → template.Unmarked) :
    EndsListing files directory asJson (showTemplates files found asJson) := by
  cases asJson with
  | true => exact endsListing_of_shown ⟨shallow, nofun, nofun⟩ listed .document
  | false =>
    unfold showTemplates
    rw [if_neg (by decide)]
    by_cases titled : ∀ template ∈ found, ¬Untitled template
    · obtain ⟨widths, heading, blocks, drawn, headed, rows⟩ := exists_drawn titled
        (fun template member => ((held template).mp member).named)
        (fun template member => unmarked rfl template ((held template).mp member))
      have listable (written : ∀ line ∈ (heading :: blocks).flatten,
          Terminal.isWritable line = true) : Listable files directory false := by
        refine ⟨shallow, fun _ template holds => titled template ((held template).mpr holds), ?_⟩
        intro _ other again _ _ also
        obtain rfl : found = other := Except.ok.inj (listed.symm.trans again)
        rwa [← drawn.unique also]
      by_cases none : found = []
      · subst none
        rw [List.isEmpty_nil, if_pos rfl, shown_nothing]
        refine endsListing_of_shown (listable fun line within => ?_) listed (.nothing rfl)
        exact isWritable_of_drawn (List.forall_mem_nil _) (List.forall_mem_nil _)
          (List.forall_mem_nil _) drawn within
      · rw [if_neg (by simpa using none)]
        exact endsListing_templateTable none listed drawn headed rows listable
    · obtain ⟨template, member, untitled⟩ : ∃ template ∈ found, Untitled template := by
        simpa using titled
      rw [if_neg (by simpa using List.ne_nil_of_mem member)]
      obtain ⟨fileName, failed⟩ := templateTable_untitled files member untitled
      rw [failed]
      exact endsListing_of_failed rfl fun listable =>
        listable.titled rfl template ((held template).mp member) untitled

/-- A directory is listed unless one of its files ends the run. -/
theorem endsListing_templates (environment : Environment)
    (reached : files.isDirectory directory = .ok true)
    (unmarked : asJson = false → ∀ template, Held files directory template → template.Unmarked) :
    EndsListing files directory asJson
      (templates files environment (some directory) asJson) := by
  have succeeds_iff : (∃ found, Template.list files directory = .ok found) ↔
      ∀ fileName, Path.IsDocumentName fileName →
        ¬files.HoldsDeepText (directory.child fileName) := by
    simp [Template.list_succeeds_iff, reached]
  unfold templates
  rw [Option.some_or]
  dsimp only
  cases listed : Template.list files directory with
  | error breakdown =>
    refine endsListing_of_failed rfl fun listable => ?_
    obtain ⟨found, succeeded⟩ := succeeds_iff.mpr listable.shallow
    rw [listed] at succeeded
    cases succeeded
  | ok found =>
    refine endsListing_showTemplates (succeeds_iff.mp ⟨found, listed⟩) listed ?_ unmarked
    simpa [reached] using (Template.lists_of_list listed).members

/-- If the texts of all templates can be written, only depth and titles can end a listing. -/
theorem listable_of_legible
    (unmarked : asJson = false → ∀ template, Held files directory template → template.Unmarked)
    (shallow : ∀ fileName, Path.IsDocumentName fileName →
      ¬files.HoldsDeepText (directory.child fileName))
    (titled : asJson = false → ∀ template, Held files directory template → ¬Untitled template)
    (legible : asJson = false → ∀ template, Held files directory template → template.Legible) :
    Listable files directory asJson := by
  refine ⟨shallow, titled, fun table found listed widths blocks drawn line within => ?_⟩
  have held (template : Template) (member : template ∈ found) : Held files directory template :=
    ((Template.lists_of_list listed).members template).mp member |>.2
  exact isWritable_of_drawn (fun template member => (held template member).named)
    (fun template member => unmarked table template (held template member))
    (fun template member => legible table template (held template member)) drawn within

end

open scoped Platform

/-- Whether a template is shown without brackets. -/
def isPlain (template : Template) : Bool :=
  '[' ∉ template.fileName.toList && template.title?.all fun title => '[' ∉ title.toList

theorem unmarked_of_isPlain {template : Template} (plain : isPlain template = true) :
    template.Unmarked := by
  unfold isPlain at plain
  simp only [Bool.and_eq_true, decide_eq_true_eq, Option.all_eq_true] at plain
  exact ⟨Markup.tagless_of_notMem plain.1,
    fun title entitled => Markup.tagless_of_notMem (plain.2 title entitled)⟩

theorem folderWith_computed (entry : Entry) (check : Template → Bool) {names : List String}
    (computed : (Template.list (Template.folderWith entry) (.ofString "t")).toOption.map
      (fun found => (found.map Template.fileName, found.all isPlain, found.all check)) =
        some (names, true, true)) :
    ∃ found, Template.list (Template.folderWith entry) (.ofString "t") = .ok found ∧
      found.map Template.fileName = names ∧ (∀ template ∈ found, template.Unmarked) ∧
      ∀ template ∈ found, check template = true := by
  cases listed : Template.list (Template.folderWith entry) (.ofString "t") with
  | error breakdown => simp [listed, Except.toOption] at computed
  | ok found =>
    simp only [listed, Except.toOption, Option.map_some, Option.some.injEq, Prod.mk.injEq,
      List.all_eq_true] at computed
    obtain ⟨named, plain, checked⟩ := computed
    exact ⟨found, rfl, named, fun template member => unmarked_of_isPlain (plain template member),
      checked⟩

/-- A text that is cut off. -/
def cutOff : Entry := .file (.text "[")

/-- A template with a number as its title. -/
def numbered : Entry :=
  .file (.text "\x7b\"summary\": \x7b\"title\": 5\x7d, \"detail\": 1\x7d")

end CommandLine
end ThreatAnalysis
