import QueryBench.Proofs.Files.Folders
import QueryBench.Proofs.Run.Revision
import QueryBench.Proofs.Run.Workspace
import QueryBench.Run.TestSet

/-!
# The lines of a report

A report is made anew line by line. While that goes on two files are open, and each line is added to
the first of them and perhaps to the second. So what a run leaves behind follows from what each line
is made into; and from a run that ended well it can be told what each line was made into.

Main definitions: `Reprocess.HandledLines`, the lines of a report with what they are made into, and
`Reprocess.Ready`, for a workspace in which a report can be made anew. Main statements:
`reprocess_lines` and `reprocess_ok`.
-/
set_option autoImplicit false

namespace QueryBench.Reprocess
variable {world : World}

/-! ## What becomes of the lines -/

/-- A result, what it is made into, and the counters before and after it. -/
structure Handled (world : World) (tally result : Doc) (revision : Revision) (total : Doc) : Prop where
  revised : Yields (revise world result) (.ok revision)
  counted : Tally.count tally revision.result = .ok total
  shallow : revision.result.depth ≤ Json.depthLimit
  whole : Text.Utf8.Whole (reportLine revision.result)

/-- Lines of a report, what their results are made into, and the counters before and after them. A
line that is blank or no document is passed over. -/
inductive HandledLines (world : World) : Doc → List Text → List Revision → Doc → Prop where
  | nil (tally : Doc) : HandledLines world tally [] [] tally
  | skip {tally total : Doc} {line : Text} {rest : List Text} {revisions : List Revision}
      (hline : Text.isBlankText line = true ∨
        ∃ description, Json.read line = .error (.malformed description))
      (hrest : HandledLines world tally rest revisions total) :
      HandledLines world tally (line :: rest) revisions total
  | cons {tally counted total result : Doc} {line : Text} {rest : List Text} {revision : Revision}
      {revisions : List Revision} (hblank : Text.isBlankText line = false)
      (hread : Json.read line = .ok result) (hfirst : Handled world tally result revision counted)
      (hrest : HandledLines world counted rest revisions total) :
      HandledLines world tally (line :: rest) (revision :: revisions) total

/-- The lines of all results that were made anew. -/
def outputOf (revisions : List Revision) : Text :=
  (revisions.map fun r => reportLine r.result).flatten

/-- The report of those that failed. -/
def errorsOf (revisions : List Revision) : Text :=
  (revisions.map fun r => if r.failed then reportLine r.result else []).flatten

theorem HandledLines.whole {tally total : Doc} {lines : List Text} {revisions : List Revision}
    (h : HandledLines world tally lines revisions total) :
    Text.Utf8.Whole (outputOf revisions) ∧ Text.Utf8.Whole (errorsOf revisions) := by
  induction h with
  | nil => exact ⟨by simp [outputOf, Text.Utf8.Whole], by simp [errorsOf, Text.Utf8.Whole]⟩
  | skip _ _ ih => exact ih
  | @cons _ _ _ _ _ _ revision _ _ _ hfirst _ ih =>
    refine ⟨List.forall_mem_append.2 ⟨hfirst.whole, ih.1⟩, List.forall_mem_append.2 ⟨?_, ih.2⟩⟩
    dsimp only
    split
    · exact hfirst.whole
    · simp

/-! ## The open files -/

/-- Files that differ from those at the start in what the two open files hold. -/
structure Opened (start files : Files) (output errors : Location) (text failures : Text) : Prop where
  shape : Files.SameShape start files
  output : files.contents.lookup output = some (Text.Utf8.bytes text)
  errors : files.contents.lookup errors = some (Text.Utf8.bytes failures)

/-- Counters, and the handles of two files in which these texts were written. -/
def progressAt (tally : Doc) (output errors : Location) (text failures : Text) : Progress :=
  ⟨tally, ⟨output, (Text.Utf8.bytes text).length⟩, ⟨errors, (Text.Utf8.bytes failures).length⟩⟩

theorem bytes_append (s t : Text) :
    Text.Utf8.bytes (s ++ t) = Text.Utf8.bytes s ++ Text.Utf8.bytes t := by
  simp [Text.Utf8.bytes]

theorem writeTo_ends {files : Files} {place : Location} {s line : Text}
    (h : files.contents.lookup place = some (Text.Utf8.bytes s)) (hline : Text.Utf8.Whole line) :
    Ends (writeTo ⟨place, (Text.Utf8.bytes s).length⟩ line) files
      ⟨place, (Text.Utf8.bytes (s ++ line)).length⟩
      (files.put place (Text.Utf8.bytes (s ++ line))) := by
  rw [bytes_append]
  exact Ends.withFiles (Files.writeAt_end h hline)

section
variable {start files : Files} {output errors : Location} {text failures : Text}

theorem handle_ends (hopen : Opened start files output errors text failures)
    (hne : output ≠ errors) {tally result total : Doc} {revision : Revision}
    (h : Handled world tally result revision total) :
    ∃ files', Opened start files' output errors (text ++ reportLine revision.result)
        (failures ++ if revision.failed then reportLine revision.result else []) ∧
      Ends (handle world (progressAt tally output errors text failures) result) files
        (progressAt total output errors (text ++ reportLine revision.result)
          (failures ++ if revision.failed then reportLine revision.result else [])) files' := by
  have hwrite := writeTo_ends hopen.output h.whole
  have hshape := hopen.shape.trans (Files.sameShape_put_lookup hopen.output
    (Text.Utf8.bytes (text ++ reportLine revision.result)))
  have herrors : (files.put output
      (Text.Utf8.bytes (text ++ reportLine revision.result))).contents.lookup errors =
      some (Text.Utf8.bytes failures) := by
    rw [Files.lookup_put_of_ne _ hne.symm, hopen.errors]
  -- behind the depth of the result, which does not end the run
  have hrest {files' : Files} {p : Progress} (hends : Ends (do
        let output ← writeTo ⟨output, (Text.Utf8.bytes text).length⟩ (reportLine revision.result)
        let errors ← if revision.failed then
            writeTo ⟨errors, (Text.Utf8.bytes failures).length⟩ (reportLine revision.result)
          else pure ⟨errors, (Text.Utf8.bytes failures).length⟩
        return (⟨total, output, errors⟩ : Progress)) files p files') :
      Ends (handle world (progressAt tally output errors text failures) result) files p files' := by
    refine (Ends.work h.revised _).bind ((Ends.lift h.counted _).bind ?_)
    dsimp only
    rw [if_neg (Nat.not_lt.2 h.shallow)]
    exact hends
  cases hfailed : revision.failed with
  | false =>
    rw [hfailed] at hrest
    rw [if_neg Bool.false_ne_true, List.append_nil]
    exact ⟨_, ⟨hshape, Files.lookup_put_self _ _ _, herrors⟩,
      hrest (hwrite.bind ((Ends.pure _ _).bind (.pure _ _)))⟩
  | true =>
    rw [hfailed] at hrest
    refine ⟨_, ⟨hshape.trans (Files.sameShape_put_lookup herrors _), ?_, Files.lookup_put_self _ _ _⟩,
      hrest (hwrite.bind ((writeTo_ends herrors h.whole).bind (.pure _ _)))⟩
    rw [Files.lookup_put_of_ne _ hne, Files.lookup_put_self]

/-- The results of a report are added to the open files, one after the other. -/
theorem handleLines_ends (hne : output ≠ errors) {tally total : Doc} {lines : List Text}
    {revisions : List Revision} (h : HandledLines world tally lines revisions total)
    (hopen : Opened start files output errors text failures) :
    ∃ files', Opened start files' output errors (text ++ outputOf revisions)
        (failures ++ errorsOf revisions) ∧
      Ends (handleLines world (progressAt tally output errors text failures) lines) files
        (progressAt total output errors (text ++ outputOf revisions) (failures ++ errorsOf revisions))
        files' := by
  -- each line goes behind the texts that the lines before it have written
  induction h generalizing files text failures with
  | nil tally =>
    rw [outputOf, errorsOf, List.map_nil, List.map_nil, List.flatten_nil, List.append_nil,
      List.append_nil]
    exact ⟨files, hopen, .pure _ _⟩
  | @skip _ _ line rest _ hline _ ih =>
    obtain ⟨files', hopen', hends⟩ := ih hopen
    refine ⟨files', hopen', ?_⟩
    rw [handleLines]
    by_cases hblank : Text.isBlankText line = true
    · rw [if_pos hblank]
      exact hends
    · obtain ⟨description, hread⟩ := hline.resolve_left hblank
      rw [if_neg hblank, hread]
      exact (Ends.work (Yields.say _) _).bind hends
  | cons hblank hread hfirst _ ih =>
    obtain ⟨files₁, hopen₁, hhandle⟩ := handle_ends hopen hne hfirst
    obtain ⟨files₂, hopen₂, hlines⟩ := ih hopen₁
    rw [List.append_assoc, List.append_assoc] at hopen₂ hlines
    refine ⟨files₂, hopen₂, ?_⟩
    rw [handleLines, hblank, if_neg Bool.false_ne_true, hread]
    exact hhandle.bind hlines

end

/-! ## Lines that were handled -/

/-- Are the two open files there? -/
def Progress.OpenIn (p : Progress) (files : Files) : Prop :=
  p.output.place ∈ files.contents.map Prod.fst ∧ p.errors.place ∈ files.contents.map Prod.fst

/-- From `p` on the open files stayed the same ones, and only their bytes were changed. -/
structure Progress.Goes (p : Progress) (files : Files) (p' : Progress) (files' : Files) : Prop where
  shape : Files.SameShape files files'
  output : p'.output.place = p.output.place
  errors : p'.errors.place = p.errors.place

theorem Progress.Goes.openIn {p p' : Progress} {files files' : Files} (h : p.Goes files p' files')
    (hopen : p.OpenIn files) : p'.OpenIn files' := by
  rw [Progress.OpenIn, h.output, h.errors, ← h.shape.places]
  exact hopen

section
variable {w w' : Workspace} {p p' : Progress}

theorem writeTo_ok {h h' : Files.Handle} {text : Text}
    (hplace : h.place ∈ w.files.contents.map Prod.fst)
    (hrun : runIn (writeTo h text) w = (.ok h', w')) :
    Text.Utf8.Whole text ∧ h'.place = h.place ∧ Files.SameShape w.files w'.files := by
  obtain ⟨hwhole, hsame, content, hfiles⟩ := Files.writeAt_eq_ok (withFiles_ok hrun)
  exact ⟨hwhole, hsame, hfiles ▸ Files.sameShape_put_mem hplace content⟩

theorem handle_ok {result : Doc} (hopen : p.OpenIn w.files)
    (h : runIn (handle world p result) w = (.ok p', w')) :
    (∃ revision, Handled world p.tally result revision p'.tally) ∧ p.Goes w.files p' w'.files := by
  obtain ⟨revision, w₁, hrevise, hcounting⟩ := run_bind_ok h
  obtain ⟨hrevised, hfiles₁⟩ := work_ok (yields_revised world result) hrevise
  obtain ⟨tally, w₂, hcount, hwriting⟩ := run_bind_ok hcounting
  obtain ⟨hcounted, rfl⟩ := lift_ok hcount
  rw [← hfiles₁] at hopen ⊢
  dsimp only at hwriting
  split at hwriting
  next =>
    obtain ⟨u, w₃, hthrow, -⟩ := run_bind_ok hwriting
    cases hthrow
  next hdepth =>
    obtain ⟨output, w₃, houtput, hfailing⟩ := run_bind_ok hwriting
    obtain ⟨hwhole, hplace, hshape⟩ := writeTo_ok hopen.1 houtput
    have hhandled : Handled world p.tally result revision tally :=
      ⟨hrevised ▸ yields_revised world result, hcounted, Nat.le_of_not_lt hdepth, hwhole⟩
    split at hfailing
    next =>
      obtain ⟨errors, w₄, herrors, hend⟩ := run_bind_ok hfailing
      obtain ⟨-, hplace', hshape'⟩ := writeTo_ok (hshape.places ▸ hopen.2) herrors
      cases hend
      exact ⟨⟨revision, hhandled⟩, hshape.trans hshape', hplace, hplace'⟩
    next =>
      cases hfailing
      exact ⟨⟨revision, hhandled⟩, hshape, hplace, rfl⟩

theorem handleLines_ok {lines : List Text} (hopen : p.OpenIn w.files)
    (h : runIn (handleLines world p lines) w = (.ok p', w')) :
    (∃ revisions, HandledLines world p.tally lines revisions p'.tally) ∧
      p.Goes w.files p' w'.files := by
  -- only bytes of the open files change, so the next line finds both of them open
  induction lines generalizing p w with
  | nil =>
    cases h
    exact ⟨⟨[], .nil _⟩, .refl _, rfl, rfl⟩
  | cons line rest ih =>
    rw [handleLines] at h
    by_cases hblank : Text.isBlankText line = true
    · rw [if_pos hblank] at h
      obtain ⟨⟨revisions, hlines⟩, hgoes⟩ := ih hopen h
      exact ⟨⟨revisions, .skip (.inl hblank) hlines⟩, hgoes⟩
    · rw [if_neg hblank] at h
      cases hread : Json.read line with
      | ok result =>
        rw [hread] at h
        obtain ⟨p₁, w₁, hhandle, h⟩ := run_bind_ok h
        obtain ⟨⟨revision, hfirst⟩, hgoes₁⟩ := handle_ok hopen hhandle
        obtain ⟨⟨revisions, hlines⟩, hgoes⟩ := ih (hgoes₁.openIn hopen) h
        refine ⟨⟨_, .cons (by simpa using hblank) hread hfirst hlines⟩, ?_⟩
        exact ⟨hgoes₁.shape.trans hgoes.shape, hgoes.output.trans hgoes₁.output,
          hgoes.errors.trans hgoes₁.errors⟩
      | error fault =>
        rw [hread] at h
        cases fault with
        | malformed description =>
          obtain ⟨u, w₁, hsay, h⟩ := run_bind_ok h
          obtain ⟨-, hfiles⟩ := work_ok (Yields.say _) hsay
          obtain ⟨⟨revisions, hlines⟩, hgoes⟩ := ih (hfiles ▸ hopen) h
          exact ⟨⟨revisions, .skip (.inr ⟨description, hread⟩) hlines⟩, hfiles ▸ hgoes⟩
        | _ => cases h

end

/-! ## Whole runs -/

/-- The files that a run is given, and its database. -/
structure Paths where
  input : Text
  output : Text
  errors : Text
  statistics : Text
  database : Text

/-- The settings with these files. -/
def Paths.settings (paths : Paths) : Settings :=
  ⟨paths.input, paths.output, paths.errors, paths.statistics, paths.database⟩

/-- The settings that the arguments of a run give. -/
def settingsOf (arguments : List Text) : Except CommandLine.Stop Settings :=
  Settings.ofOptions <$> CommandLine.parse parameters arguments

/-- Can a report be made anew here? It is there with the database. The other files can be written,
the last of them in a folder that may have to be made, and none but the last takes the place of
another. -/
structure Ready (world : World) (paths : Paths) (files : Files) (report : Text)
    (output errors statistics : Location) (made : Files) : Prop where
  input : files.text? paths.input = some report
  located : ∃ found, Yields (Database.locate world.folder files paths.database) (.ok found)
  outputTarget : files.target paths.output = .ok output
  errorsTarget : (files.put output []).target paths.errors = .ok errors
  folder : ((files.put output []).put errors []).makeFolders (Path.folder paths.statistics) = .ok made
  statisticsTarget : made.target paths.statistics = .ok statistics
  output_ne_errors : output ≠ errors
  output_ne_statistics : output ≠ statistics
  input_ne_output : files.find paths.input ≠ .ok output
  input_ne_errors : files.find paths.input ≠ .ok errors

theorem finish_ends {paths : Paths} {tally : Doc} {texts : List Text}
    (hpieces : Json.pieces TestSet.summaryStyle tally = texts.map .ok)
    (hwhole : Text.Utf8.Whole texts.flatten) {files made : Files} {place : Location}
    (hfolder : files.makeFolders (Path.folder paths.statistics) = .ok made)
    (htarget : made.target paths.statistics = .ok place) :
    Ends (finish paths.settings tally) files () (made.put place (Text.Utf8.bytes texts.flatten)) := by
  have hwrite := Files.writePieces_of_target htarget hwhole
  rw [← hpieces] at hwrite
  exact (Ends.lift rfl _).bind ((Ends.changeFiles hfolder).bind ((Ends.writePieces hwrite).bind
    ((Ends.work (Yields.say _) _).bind (Ends.work (Yields.say _) _))))

section
variable {paths : Paths} {files : Files} {report : Text} {output errors statistics : Location}
  {made : Files} {revisions : List Revision} {total : Doc} {texts : List Text}

/-- The lines of a report are made anew, and the counters are written. -/
theorem reprocess_lines (hready : Ready world paths files report output errors statistics made)
    (hhandled :
      HandledLines world Tally.start (Text.lines (Text.unifyNewlines report)) revisions total)
    (hpieces : Json.pieces TestSet.summaryStyle total = texts.map .ok)
    (hwhole : Text.Utf8.Whole texts.flatten) :
    ∃ files', Ends (reprocess world paths.settings paths.input) files () files' ∧
      files'.text? paths.statistics = some texts.flatten ∧
      files'.text? paths.output = some (outputOf revisions) ∧
      (errors ≠ statistics → files'.text? paths.errors = some (errorsOf revisions)) := by
  obtain ⟨found, hfound⟩ := hready.located
  have hfree := Files.free_of_target hready.outputTarget
  have hfree' := Files.free_of_target hready.errorsTarget
  obtain ⟨start, hstart⟩ : ∃ start, start = (files.put output []).put errors [] := ⟨_, rfl⟩
  have hopen : Opened start start output errors [] [] := by
    rw [hstart]
    refine ⟨.refl _, ?_, Files.lookup_put_self _ _ _⟩
    rw [Files.lookup_put_of_ne _ hready.output_ne_errors, Files.lookup_put_self]
    rfl
  have houtput : start.target paths.output = .ok output := by
    rw [hstart]
    exact Files.target_put hfree' [] (Files.target_put hfree [] hready.outputTarget)
  have herrors : start.target paths.errors = .ok errors := by
    rw [hstart]
    exact Files.target_put hfree' [] hready.errorsTarget
  obtain ⟨files₁, hopen₁, hlines⟩ := handleLines_ends hready.output_ne_errors hhandled hopen
  rw [List.nil_append, List.nil_append] at hopen₁ hlines
  have hreport : start.text? paths.input = some report := by
    rw [hstart]
    refine Files.text?_put hfree' [] (Files.text?_put hfree [] hready.input hready.input_ne_output) ?_
    intro hfind
    exact hready.input_ne_errors (Files.find_of_find_put hfree hfind hready.output_ne_errors.symm)
  obtain ⟨made', hmade', hshape⟩ := hopen₁.shape.makeFolders (hstart ▸ hready.folder)
  have htarget' : made'.target paths.statistics = .ok statistics := by
    rw [← hshape.target]
    exact hready.statisticsTarget
  -- a file that is open, and is not that of the counters, keeps its text
  have hkeeps {path text : Text} {place : Location} (hplace : start.target path = .ok place)
      (hlookup : files₁.contents.lookup place = some (Text.Utf8.bytes text))
      (htext : Text.Utf8.Whole text) (hne : place ≠ statistics) :
      (made'.put statistics (Text.Utf8.bytes texts.flatten)).text? path = some text := by
    have htarget : files₁.target path = .ok place := hopen₁.shape.target path ▸ hplace
    have hfind := Files.find_of_target htarget (Files.mem_of_lookup hlookup)
    refine Files.text?_put (Files.free_of_target htarget') _
      ((Files.grows_makeFolders hmade').text? (Files.text?_of_target htext htarget hlookup)) ?_
    rw [(Files.grows_makeFolders hmade').find hfind]
    exact fun h => hne (Except.ok.inj h)
  refine ⟨made'.put statistics (Text.Utf8.bytes texts.flatten), ?_, ?_, ?_, fun hne => ?_⟩
  · have hlocate : Ends (locateDatabase world paths.settings.database) files found files :=
      (Ends.lift rfl _).bind ((Ends.currentFiles _).bind (Ends.work hfound _))
    have hcreate := Files.create_of_target hready.errorsTarget
    rw [← hstart] at hcreate
    refine hlocate.bind ((Ends.currentFiles _).bind
      ((Ends.lift (Files.canRead_of_text? hready.input) _).bind ((Ends.lift rfl _).bind
        ((Ends.withFiles (Files.create_of_target hready.outputTarget)).bind ((Ends.lift rfl _).bind
          ((Ends.withFiles hcreate).bind ((Ends.currentFiles _).bind
            ((Ends.lift (Files.read_of_text? hreport) _).bind ?_))))))))
    exact hlines.bind (finish_ends hpieces hwhole hmade' htarget')
  · exact Files.text?_put_self hwhole htarget'
  · exact hkeeps houtput hopen₁.output hhandled.whole.1 hready.output_ne_statistics
  · exact hkeeps herrors hopen₁.errors hhandled.whole.2 hne

end

theorem run_ends {arguments : List Text} {paths : Paths} {files files' : Files} {report : Text}
    (hpaths : settingsOf arguments = .ok paths.settings)
    (hreport : files.text? paths.input = some report)
    (h : Ends (reprocess world paths.settings paths.input) files () files') :
    Ends (run world arguments) files () files' := by
  obtain ⟨given, hgiven, hsettings⟩ := ok_of_map hpaths
  obtain ⟨place, content, hfind, -⟩ := Files.text?_eq_some.1 hreport
  refine (Ends.work (CommandLine.yields_ask hgiven world.program) _).bind ?_
  dsimp only
  rw [hsettings]
  refine (Ends.lift rfl _).bind ((Ends.currentFiles _).bind ?_)
  rw [if_pos (by rw [Files.exist, hfind]; rfl)]
  exact h

/-! ## Runs that ended well -/

theorem settled_locate (folder : Text) (files : Files) (name : Text) :
    Settled (Database.locate folder files name) := by
  unfold Database.locate
  split
  · exact .pure _
  · split
    · exact (Settled.say _).bind fun _ => .pure _
    · exact .throw _

/-- What a run went through that began with `files` and left `after`: its places, the text it read,
what the lines of this were made into, and the counters with the texts of their pieces. -/
structure Ran (world : World) (paths : Paths) (files after : Files)
    (output errors statistics : Location) (text : Text) (revisions : List Revision) (total : Doc)
    (texts : List Text) : Prop where
  located : ∃ found, Yields (Database.locate world.folder files paths.database) (.ok found)
  outputTarget : files.target paths.output = .ok output
  errorsTarget : (files.put output []).target paths.errors = .ok errors
  read : ((files.put output []).put errors []).read paths.input = .ok text
  handled : HandledLines world Tally.start (Text.lines text) revisions total
  pieces : Json.pieces TestSet.summaryStyle total = texts.map .ok
  whole : Text.Utf8.Whole texts.flatten
  left : ∃ filled made, Files.SameShape ((files.put output []).put errors []) filled ∧
    filled.makeFolders (Path.folder paths.statistics) = .ok made ∧
    made.target paths.statistics = .ok statistics ∧
    after = made.put statistics (Text.Utf8.bytes texts.flatten)

section
variable {paths : Paths} {w after : Workspace}

theorem finish_ok {tally : Doc} (h : runIn (finish paths.settings tally) w = (.ok (), after)) :
    ∃ (made : Files) (place : Location) (texts : List Text),
      w.files.makeFolders (Path.folder paths.statistics) = .ok made ∧
      made.target paths.statistics = .ok place ∧
      Json.pieces TestSet.summaryStyle tally = texts.map .ok ∧ Text.Utf8.Whole texts.flatten ∧
      after.files = made.put place (Text.Utf8.bytes texts.flatten) := by
  obtain ⟨path, w₁, hpath, hmaking⟩ := run_bind_ok h
  cases hpath
  obtain ⟨u, w₂, hmade, hwriting⟩ := run_bind_ok hmaking
  obtain ⟨v, w₃, hwritten, hsaying⟩ := run_bind_ok hwriting
  obtain ⟨x, w₄, hsaid, hsaid'⟩ := run_bind_ok hsaying
  obtain ⟨place, texts, htarget, hpieces, hwhole, hfiles⟩ :=
    Files.writePieces_eq_ok (writePieces_ok hwritten)
  refine ⟨w₂.files, place, texts, changeFiles_ok hmade, htarget, hpieces, hwhole, ?_⟩
  rw [(work_ok (Yields.say _) hsaid').2, (work_ok (Yields.say _) hsaid).2, hfiles]

theorem locateDatabase_ok {name found : Text}
    (h : runIn (locateDatabase world (some name)) w = (.ok found, after)) :
    Yields (Database.locate world.folder w.files name) (.ok found) ∧ after.files = w.files := by
  obtain ⟨path, w₁, hpath, hfinding⟩ := run_bind_ok h
  cases hpath
  obtain ⟨files, w₂, hfiles, hlocated⟩ := run_bind_ok hfinding
  obtain ⟨rfl, rfl⟩ := currentFiles_ok hfiles
  obtain ⟨r, hr⟩ := settled_locate world.folder w₂.files name
  obtain ⟨rfl, hsame⟩ := work_ok hr hlocated
  exact ⟨hr, hsame⟩

/-- A report that was made anew was read, and every line of it was handled. -/
theorem reprocess_ok (h : runIn (reprocess world paths.settings paths.input) w = (.ok (), after)) :
    ∃ output errors statistics text revisions total texts,
      Ran world paths w.files after.files output errors statistics text revisions total texts := by
  obtain ⟨found, w₁, hlocate, hchecking⟩ := run_bind_ok h
  obtain ⟨hfound, hsame⟩ := locateDatabase_ok hlocate
  obtain ⟨files, w₂, hfiles, hcanRead⟩ := run_bind_ok hchecking
  obtain ⟨rfl, rfl⟩ := currentFiles_ok hfiles
  obtain ⟨u, w₃, hcheck, hnaming⟩ := run_bind_ok hcanRead
  obtain ⟨-, rfl⟩ := lift_ok hcheck
  -- the two files are opened
  obtain ⟨path, w₄, hpath, hcreating⟩ := run_bind_ok hnaming
  cases hpath
  obtain ⟨output, w₅, hcreate, hnaming'⟩ := run_bind_ok hcreating
  obtain ⟨place, htarget, rfl, hput⟩ := Files.create_eq_ok (withFiles_ok hcreate)
  obtain ⟨path, w₆, hpath, hcreating'⟩ := run_bind_ok hnaming'
  cases hpath
  obtain ⟨errors, w₇, hcreate', hopened⟩ := run_bind_ok hcreating'
  obtain ⟨place', htarget', rfl, hput'⟩ := Files.create_eq_ok (withFiles_ok hcreate')
  -- the report is read, and its lines are handled
  obtain ⟨files, w₈, hfiles', hreading⟩ := run_bind_ok hopened
  obtain ⟨rfl, rfl⟩ := currentFiles_ok hfiles'
  obtain ⟨text, w₉, hread, hhandling⟩ := run_bind_ok hreading
  obtain ⟨htext, rfl⟩ := lift_ok hread
  obtain ⟨progress, w₁₀, hlines, hfinish⟩ := run_bind_ok hhandling
  rw [hsame] at htarget hput
  rw [hput] at htarget' hput'
  rw [hput'] at htext
  have hopen : Progress.OpenIn ⟨Tally.start, ⟨place, 0⟩, ⟨place', 0⟩⟩ w₉.files := by
    rw [hput']
    exact ⟨Files.mem_putContent.2 (.inr (Files.mem_putContent.2 (.inl rfl))),
      Files.mem_putContent.2 (.inl rfl)⟩
  obtain ⟨⟨revisions, hhandled⟩, hgoes⟩ := handleLines_ok hopen hlines
  obtain ⟨made, statistics, texts, hmade, hplace, hpieces, hwhole, hafter⟩ := finish_ok hfinish
  exact ⟨place, place', statistics, text, revisions, progress.tally, texts, ⟨found, hfound⟩, htarget,
    htarget', htext, hhandled, hpieces, hwhole, w₁₀.files, made, hput' ▸ hgoes.shape, hmade, hplace,
    hafter⟩

theorem run_ok {arguments : List Text} (hpaths : settingsOf arguments = .ok paths.settings)
    (hexist : w.files.exist paths.input = true)
    (h : runIn (run world arguments) w = (.ok (), after)) :
    ∃ output errors statistics text revisions total texts,
      Ran world paths w.files after.files output errors statistics text revisions total texts := by
  obtain ⟨given, hgiven, hsettings⟩ := ok_of_map hpaths
  obtain ⟨taken, w₁, hask, hnaming⟩ := run_bind_ok h
  obtain ⟨htaken, hsame⟩ := work_ok (CommandLine.yields_ask hgiven world.program) hask
  cases htaken
  dsimp only at hnaming
  rw [hsettings] at hnaming
  obtain ⟨path, w₂, hpath, hchoosing⟩ := run_bind_ok hnaming
  cases hpath
  obtain ⟨files, w₃, hfiles, hrun⟩ := run_bind_ok hchoosing
  obtain ⟨rfl, rfl⟩ := currentFiles_ok hfiles
  rw [hsame, if_pos hexist] at hrun
  exact hsame ▸ reprocess_ok hrun

end

end QueryBench.Reprocess
