/-
# Files that are no scripts

A base directory may hold files that a runner does not run. They are read and offered
like scripts, and the runner lists them as ignored. So a file that is added to a base
directory changes nothing but this list, as long as it can be read and offered at all:
its bytes have to be a text, and no other base directory may hold a file of its name.
Otherwise nothing is offered any more, and a run ends before its first call.
-/

import MigrationLedger.Proofs.Runner.Sorting

namespace MigrationLedger

namespace Source

open FileTree (Added files?_put)

variable {tree larger : FileTree} {place : List String} {name : MigrationName} {bytes : ByteArray}
  {directory : String} {base overrides directories : List String} {layers : List (List Found)}
  {entries : List Found}

/-- A new file of a base directory can be read along with the other ones: its bytes are a
text, its directory is listed once, and no base directory holds a file of its name. -/
structure Fits (tree : FileTree) (base place : List String) (name : String)
    (bytes : ByteArray) : Prop where
  text : (String.fromUTF8? bytes).isSome = true
  once : base.countP (fun directory => tree.place? directory = some place) = 1
  alone : ∀ directory ∈ base, ¬ tree.Lists directory name

/-- Of new files of a name there is only one, and it can be read along with the other
ones. -/
def FitIn (tree : FileTree) (base : List String) (name : String)
    (added : List (List String × ByteArray)) : Prop :=
  ∃ place bytes, added = [(place, bytes)] ∧ Fits tree base place name bytes

/-- The scripts with other names. -/
def others (name : MigrationName) (found : List Found) : List Found :=
  found.filter fun entry => entry.migration.name != name

/-- A file with the name of a migration is a script when its bytes are a text. -/
theorem script_file_eq_ok_iff {entry : Found} :
    script directory (name.text, .file bytes) = .ok entry ↔
      ∃ text, String.fromUTF8? bytes = some text ∧
        entry = ⟨Path.join directory name.text, ⟨name, text⟩⟩ := by
  simp only [script_eq_ok_iff, MigrationName.parse_text, Except.ok.injEq, FileNode.text?]
  constructor
  · rintro ⟨_, text, rfl, read, rfl⟩
    exact ⟨text, read, rfl⟩
  · rintro ⟨text, read, rfl⟩
    exact ⟨name, text, rfl, read, rfl⟩

/-- In its own directory a new file adds one script behind the others, if it can be read.
Other directories are read as before. -/
theorem scripts_put (free : tree.node? (place ++ [name.text]) = none)
    (read : scripts tree directory = .ok entries) {more : List Found} :
    scripts (tree.put (place ++ [name.text]) (.file bytes)) directory = .ok more ↔
      if tree.place? directory = some place then
        ∃ text, String.fromUTF8? bytes = some text ∧
          more = entries ++ [⟨Path.join directory name.text, ⟨name, text⟩⟩]
      else more = entries := by
  obtain ⟨files, listed, each⟩ := scripts_eq_ok_iff.mp read
  have kept := mapM_eq_ok_iff.mpr each
  rw [scripts, files?_put free listed]
  dsimp only
  split_ifs with here
  · simp only [List.mapM_append, List.mapM_cons, List.mapM_nil, bind_eq_ok_iff, kept, pure,
      Except.pure, Except.ok.injEq, script_file_eq_ok_iff]
    constructor
    · rintro ⟨_, rfl, _, ⟨_, ⟨text, isText, rfl⟩, _, rfl, rfl⟩, rfl⟩
      exact ⟨text, isText, rfl⟩
    · rintro ⟨text, isText, rfl⟩
      exact ⟨_, rfl, _, ⟨_, ⟨text, isText, rfl⟩, _, rfl, rfl⟩, rfl⟩
  · rw [List.append_nil, kept]
    simp [eq_comm]

theorem others_append (found entries : List Found) :
    others name (found ++ entries) = others name found ++ others name entries :=
  List.filter_append ..

theorem others_foldl_override (name : MigrationName) (found entries : List Found) :
    others name (entries.foldl override found) =
      (others name entries).foldl override (others name found) :=
  filter_foldl_override (· != name) found entries

/-- A directory that is listed counts among those that lead to its place. -/
theorem countP_place_pos (member : directory ∈ base) (leads : tree.place? directory = some place) :
    0 < base.countP fun directory => tree.place? directory = some place :=
  List.countP_pos_iff.mpr ⟨directory, member, by simpa using leads⟩

/-- What is read of directories after a file was added: the same scripts with other names,
and one more of its name for each time that its directory is listed. -/
theorem others_of_put (free : tree.node? (place ++ [name.text]) = none)
    (read : directories.mapM (scripts tree) = .ok layers) {more : List (List Found)}
    (again : directories.mapM (scripts (tree.put (place ++ [name.text]) (.file bytes))) =
      .ok more) :
    others name more.flatten = others name layers.flatten ∧
      (names more.flatten).count name = (names layers.flatten).count name +
        directories.countP (fun directory => tree.place? directory = some place) := by
  rw [mapM_eq_ok_iff] at read again
  induction read generalizing more with
  | nil =>
      cases again
      exact ⟨rfl, rfl⟩
  | @cons directory _ _ _ first _ ih =>
      obtain _ | ⟨first', later'⟩ := again
      obtain ⟨same, counted⟩ := ih later'
      have step := (scripts_put free first).mp first'
      rw [List.flatten_cons, List.flatten_cons, names_append, names_append, others_append,
        others_append, same, List.count_append, List.count_append, counted, List.countP_cons]
      split_ifs at step with here
      · obtain ⟨text, -, rfl⟩ := step
        have one : (names [⟨Path.join directory name.text, ⟨name, text⟩⟩]).count name = 1 := by
          simp [names]
        have none : others name [⟨Path.join directory name.text, ⟨name, text⟩⟩] = [] := by
          simp [others]
        rw [others_append, none, List.append_nil, names_append, List.count_append, one,
          if_pos (by simpa using here)]
        exact ⟨rfl, by omega⟩
      · obtain rfl := step
        rw [if_neg (by simpa using here)]
        exact ⟨rfl, by omega⟩

/-- With a text in it, a new file can be read along. -/
theorem exists_mapM_put (free : tree.node? (place ++ [name.text]) = none)
    (isText : (String.fromUTF8? bytes).isSome = true)
    (read : directories.mapM (scripts tree) = .ok layers) :
    ∃ more, directories.mapM (scripts (tree.put (place ++ [name.text]) (.file bytes))) =
      .ok more := by
  obtain ⟨text, known⟩ := Option.isSome_iff_exists.mp isText
  refine exists_mapM_eq_ok fun directory member => ?_
  obtain ⟨entries, -, first⟩ := exists_scripts_of_mem read member
  by_cases here : tree.place? directory = some place
  · exact ⟨_, (scripts_put free first).mpr (by rw [if_pos here]; exact ⟨text, known, rfl⟩)⟩
  · exact ⟨_, (scripts_put free first).mpr (by rw [if_neg here])⟩

/-- Names are distinct when those other than one are, and this one does not repeat. -/
theorem nodup_names_iff (name : MigrationName) {found : List Found} :
    (names found).Nodup ↔ (names (others name found)).Nodup ∧ (names found).count name ≤ 1 := by
  have apart : names (others name found) = (names found).filter (· != name) := by
    simp [names, others, List.filter_map, Function.comp_def]
  rw [apart]
  constructor
  · intro distinct
    exact ⟨distinct.filter _, List.nodup_iff_count_le_one.mp distinct name⟩
  · rintro ⟨distinct, once⟩
    refine List.nodup_iff_count_le_one.mpr fun other => ?_
    by_cases same : other = name
    · exact same ▸ once
    · have counted := List.nodup_iff_count_le_one.mp distinct other
      rwa [List.count_filter (by simpa using same)] at counted

/-- The directories can be read with the new file exactly when it fits. -/
theorem fits_iff (bytes : ByteArray) (free : tree.node? (place ++ [name.text]) = none)
    (read : base.mapM (scripts tree) = .ok layers) (distinct : (names layers.flatten).Nodup)
    (member : directory ∈ base) (leads : tree.place? directory = some place) :
    Fits tree base place name.text bytes ↔
      ∃ more, base.mapM (scripts (tree.put (place ++ [name.text]) (.file bytes))) = .ok more ∧
        (names more.flatten).Nodup := by
  have listed := countP_place_pos member leads
  have fresh : (∀ directory ∈ base, ¬ tree.Lists directory name.text) ↔
      name ∉ names layers.flatten := by
    rw [mem_names_flatten_iff read]
    push Not
    rfl
  constructor
  · rintro ⟨isText, once, alone⟩
    obtain ⟨more, again⟩ := exists_mapM_put free isText read
    obtain ⟨same, counted⟩ := others_of_put free read again
    refine ⟨more, again, (nodup_names_iff name).mpr ⟨?_, ?_⟩⟩
    · rw [same]
      exact ((nodup_names_iff name).mp distinct).1
    · rw [counted, once, List.count_eq_zero.mpr (fresh.mp alone)]
  · rintro ⟨more, again, apart⟩
    obtain ⟨_, counted⟩ := others_of_put free read again
    have few := List.nodup_iff_count_le_one.mp apart name
    rw [counted] at few
    obtain ⟨entries, _, own⟩ := exists_scripts_of_mem read member
    obtain ⟨added, _, ownAgain⟩ := exists_scripts_of_mem again member
    have step := (scripts_put free own).mp ownAgain
    rw [if_pos leads] at step
    obtain ⟨text, isText, _⟩ := step
    exact ⟨Option.isSome_iff_exists.mpr ⟨text, isText⟩, by omega,
      fresh.mpr (List.count_eq_zero.mp (by omega))⟩

/-- With the new file the directories offer something exactly when it fits. -/
theorem exists_directories_put_iff (bytes : ByteArray)
    (free : tree.node? (place ++ [name.text]) = none)
    (member : directory ∈ base) (leads : tree.place? directory = some place)
    {before : List Migration} (read : Source.directories tree base overrides = .ok before) :
    (∃ after, Source.directories (tree.put (place ++ [name.text]) (.file bytes)) base overrides =
      .ok after) ↔ Fits tree base place name.text bytes := by
  obtain ⟨lower, upper, readLower, readUpper, distinct, -⟩ := directories_eq_ok_iff.mp read
  have fits := fits_iff bytes free readLower distinct member leads
  constructor
  · rintro ⟨after, again⟩
    obtain ⟨lower', _, readLower', _, distinct', -⟩ := directories_eq_ok_iff.mp again
    exact fits.mpr ⟨lower', readLower', distinct'⟩
  · intro fit
    obtain ⟨lower', readLower', distinct'⟩ := fits.mp fit
    obtain ⟨upper', readUpper'⟩ := exists_mapM_put free fit.text readUpper
    exact ⟨_, directories_eq_ok_iff.mpr
      ⟨lower', upper', readLower', readUpper', distinct', rfl⟩⟩

/-- Of two new files of a name, one repeats the name. -/
theorem not_exists_directories_of_added {added : List (List String × ByteArray)}
    {before : List Migration} (read : Source.directories tree base overrides = .ok before)
    (several : 2 ≤ added.length) (new : Added base name.text tree added larger) :
    ¬ ∃ after, Source.directories larger base overrides = .ok after := by
  rintro ⟨after, again⟩
  obtain ⟨layers, -, readLower, -⟩ := directories_eq_ok_iff.mp read
  obtain ⟨layers', -, readLower', -, distinct, -⟩ := directories_eq_ok_iff.mp again
  rcases new with _ | @⟨_, _, first, place, bytes, _, member, leads, free, _ | @⟨_, _, second,
    place', bytes', _, member', leads', free', rest⟩⟩
  · simp at several
  · simp at several
  · obtain ⟨_, -, inFirst⟩ := exists_scripts_of_mem readLower member
    obtain ⟨_, -, inSecond⟩ := exists_scripts_of_mem readLower member'
    obtain ⟨files, listed, -⟩ := scripts_eq_ok_iff.mp inFirst
    obtain ⟨files', listed', -⟩ := scripts_eq_ok_iff.mp inSecond
    have here := ((FileTree.lists_put_self bytes free listed leads).put free').added rest
    have there := (FileTree.lists_put_self bytes' free' (files?_put free listed') leads').added rest
    -- In one directory the second file would have stood where the first one does.
    obtain rfl := eq_of_lists readLower' distinct member member' here there
    rw [(FileTree.extends_put free _).place? leads, Option.some.injEq] at leads'
    subst leads'
    rw [FileTree.node?_put_self free] at free'
    cases free'

/-- Migrations with distinct names, the one of a given name put first. -/
theorem exists_perm_cons {migrations : List Migration}
    (distinct : (migrations.map Migration.name).Nodup)
    (member : name ∈ migrations.map Migration.name) :
    ∃ script, migrations.Perm
      (⟨name, script⟩ :: migrations.filter fun migration => migration.name != name) := by
  induction migrations with
  | nil => cases member
  | cons first rest ih =>
      rw [List.map_cons, List.nodup_cons] at distinct
      by_cases here : first.name = name
      · subst here
        have kept : rest.filter (fun migration => migration.name != first.name) = rest :=
          List.filter_eq_self.mpr fun migration later => by
            have apart : migration.name ≠ first.name := fun same =>
              distinct.1 (same ▸ List.mem_map_of_mem later)
            simpa using apart
        exact ⟨first.script, by rw [List.filter_cons_of_neg (by simp), kept]⟩
      · obtain ⟨script, perm⟩ := ih distinct.2
          ((List.mem_cons.mp member).resolve_left (Ne.symm here))
        refine ⟨script, ?_⟩
        rw [List.filter_cons_of_pos (by simpa using here)]
        exact (perm.cons first).trans (.swap ..)

/-- What scripts are offered as under other names. -/
theorem perm_others_sort (found : List Found) :
    ((Migration.sort (found.map Found.migration)).filter
      fun migration => migration.name != name).Perm ((others name found).map Found.migration) := by
  refine ((Migration.perm_sort _).filter _).trans ?_
  rw [others, List.filter_map]
  rfl

/-- What is offered with the new file: a migration of its name, and what was offered under
other names. -/
theorem exists_perm_of_put (free : tree.node? (place ++ [name.text]) = none)
    (member : directory ∈ base) (leads : tree.place? directory = some place)
    {before after : List Migration} (read : Source.directories tree base overrides = .ok before)
    (again : Source.directories (tree.put (place ++ [name.text]) (.file bytes)) base overrides =
      .ok after) :
    ∃ script, after.Perm
      (⟨name, script⟩ :: before.filter fun migration => migration.name != name) := by
  have apart := nodup_names_of_directories again
  obtain ⟨lower, upper, readLower, readUpper, -, rfl⟩ := directories_eq_ok_iff.mp read
  obtain ⟨lower', upper', readLower', readUpper', -, rfl⟩ := directories_eq_ok_iff.mp again
  obtain ⟨sameLower, counted⟩ := others_of_put free readLower readLower'
  obtain ⟨sameUpper, -⟩ := others_of_put free readUpper readUpper'
  have listed := countP_place_pos member leads
  have same : others name (upper'.flatten.foldl override lower'.flatten) =
      others name (upper.flatten.foldl override lower.flatten) := by
    rw [others_foldl_override, others_foldl_override, sameLower, sameUpper]
  have there : name ∈ names (upper'.flatten.foldl override lower'.flatten) :=
    (mem_names_foldl_override _ _).mpr (.inl (List.count_pos_iff.mp (by omega)))
  obtain ⟨script, perm⟩ := exists_perm_cons apart ((perm_names_sort _).mem_iff.mpr there)
  refine ⟨script, perm.trans (.cons _ ?_)⟩
  exact (perm_others_sort _).trans (same ▸ (perm_others_sort _).symm)

end Source

/-- The report with one more name listed as ignored. -/
def Report.ignoring (report : Report) (name : MigrationName) : Report :=
  { report with ignored := MigrationName.sort (name :: report.ignored.erase name) }

namespace Runner

variable {runner extended : Runner} {name : MigrationName} {migrations : List Migration}
  {ignored : List MigrationName}

/-- An offer of one more migration that is not run. -/
theorem recognized_of_perm_cons (same : extended.settings = runner.settings)
    {before after : List Migration} {script : String} (offered : runner.offer = .ok before)
    (offered' : extended.offer = .ok after)
    (distinct : (before.map Migration.name).Nodup) (distinct' : (after.map Migration.name).Nodup)
    (other : name.hasExtension runner.settings.extension = false)
    (perm : after.Perm
      (⟨name, script⟩ :: before.filter fun migration => migration.name != name)) :
    ∃ migrations ignored, runner.recognized = .ok (migrations, ignored) ∧
      extended.recognized = .ok (migrations, MigrationName.sort (name :: ignored.erase name)) := by
  have alike := isScript_congr same
  have scripts : (extended.scripts after).Perm (runner.scripts before) := by
    have apart : ∀ migration ∈ before, (runner.isScript migration && migration.name != name) =
        runner.isScript migration := by
      intro migration _
      by_cases one : migration.name = name
      · simp [isScript, one, other]
      · simp [one]
    have kept := perm.filter runner.isScript
    rw [List.filter_cons_of_neg (by simp [isScript, other]), List.filter_filter,
      List.filter_congr apart] at kept
    rwa [Runner.scripts, alike]
  have names : (after.filter fun migration => !extended.isScript migration).map Migration.name
      |>.Perm (name :: (runner.ignoredNames before).erase name) := by
    have once : ((before.filter fun migration => !runner.isScript migration).map
        Migration.name).Nodup := distinct.sublist (List.filter_sublist.map _)
    have erased : ((before.filter fun migration => !runner.isScript migration).map
        Migration.name).erase name =
          ((before.filter fun migration => !runner.isScript migration).filter
            fun migration => migration.name != name).map Migration.name := by
      rw [once.erase_eq_filter, List.filter_map]
      rfl
    have kept := (perm.filter fun migration => !runner.isScript migration).map Migration.name
    rw [List.filter_cons_of_pos (by simp [isScript, other]), List.map_cons, List.filter_comm,
      ← erased] at kept
    rw [alike]
    exact kept.trans (.cons _ ((MigrationName.perm_sort _).erase name).symm)
  have distinctScripts : ((extended.scripts after).map Migration.name).Nodup :=
    distinct'.sublist (List.filter_sublist.map _)
  refine ⟨_, _, recognized_eq_ok_iff.mpr ⟨before, offered,
    distinct.sublist (List.filter_sublist.map _), rfl, rfl⟩, ?_⟩
  refine recognized_eq_ok_iff.mpr ⟨after, offered', distinctScripts,
    (sort_eq_of_perm scripts distinctScripts).symm, ?_⟩
  exact (sort_names_eq_of_perm names).symm

/-- What a run makes of the names that it has applied and skipped. -/
theorem run_of_recognized (known : runner.recognized = .ok (migrations, ignored))
    (states : RunStates) :
    runner.run states = runner.takeUp states [] [] migrations >>= fun ended =>
      pure (ended.1, ended.2.map fun names => ⟨names.1, names.2, ignored⟩) := by
  rw [run, known]
  refine congrArg (runner.takeUp states [] [] migrations >>= ·) (funext fun ended => ?_)
  obtain ⟨states, failure | ⟨applied, skipped⟩⟩ := ended <;> rfl

theorem fails_of_unreadable {failure : Failure} (unreadable : runner.offer = .error failure)
    (states : RunStates) :
    runner.run states = pure (states, .error failure) ∧
      runner.status states = pure (.error failure) := by
  rw [run, status, recognized_of_unreadable unreadable]
  exact ⟨rfl, rfl⟩

/-- An offer of one more migration that is not run makes the same calls, and a report lists
its name. -/
theorem run_of_perm_cons (same : SameButSource extended runner)
    {before after : List Migration} {script : String} (offered : runner.offer = .ok before)
    (offered' : extended.offer = .ok after)
    (distinct : (before.map Migration.name).Nodup) (distinct' : (after.map Migration.name).Nodup)
    (other : name.hasExtension runner.settings.extension = false)
    (perm : after.Perm
      (⟨name, script⟩ :: before.filter fun migration => migration.name != name))
    {σ : Type} (answering : Answering σ) (states : RunStates) (database : σ) :
    (extended.run states).exchanges answering states database =
        (runner.run states).exchanges answering states database ∧
      (extended.run states).hold answering states database =
        (match (runner.run states).hold answering states database with
        | ((remembered, result), after) =>
          ((remembered, result.map (·.ignoring name)), after)) ∧
      extended.status states = runner.status states := by
  obtain ⟨migrations, ignored, known, known'⟩ :=
    recognized_of_perm_cons same.settings offered offered' distinct distinct' other perm
  have statuses : extended.status states = runner.status states := by
    simp only [status, known, known', same.settings]
  rw [run_of_recognized known, run_of_recognized known', takeUp_congr same]
  simp only [Session.exchanges_bind_pure, Session.hold_bind_pure]
  obtain ⟨⟨remembered, failure | names⟩, after⟩ :=
    (runner.takeUp states [] [] migrations).hold answering states database
  · exact ⟨trivial, rfl, statuses⟩
  · exact ⟨trivial, rfl, statuses⟩

/-- **Files that are no scripts.** For any dialect and settings, take directories whose
source can be run, and put files of one name, which does not have the extension, into base
directories where nothing of that name stood. If it is one file and it can be read along, a
run does exactly what it did before: whatever the runner remembers and whatever database it
is used with, it makes the same calls, gets the same answers, leaves the same behind and
returns the same, except that a report lists the name as ignored. A status does the same as
before. Otherwise a run and a status fail without any call. -/
theorem run_added {dialect : Sql.Dialect} {settings : Settings} {tree larger : FileTree}
    {base overrides : List String} {added : List (List String × ByteArray)} (nonempty : added ≠ [])
    (new : FileTree.Added base name.text tree added larger)
    (other : name.hasExtension settings.extension = false)
    (made : forDialect dialect settings (Source.directories tree base overrides) = .ok runner)
    (made' : forDialect dialect settings (Source.directories larger base overrides) = .ok extended)
    (runnable : runner.recognized = .ok (migrations, ignored)) :
    (Source.FitIn tree base name.text added →
      ∀ (σ : Type) (answering : Answering σ) (states : RunStates) (database : σ),
        (extended.run states).exchanges answering states database =
            (runner.run states).exchanges answering states database ∧
          (extended.run states).hold answering states database =
            (match (runner.run states).hold answering states database with
            | ((remembered, result), after) =>
              ((remembered, result.map (·.ignoring name)), after)) ∧
          extended.status states = runner.status states) ∧
    (¬ Source.FitIn tree base name.text added →
      ∃ failure, ∀ states, extended.run states = pure (states, .error failure) ∧
        extended.status states = pure (.error failure)) := by
  have same := (sameButSource_of_forDialect made made').symm
  obtain ⟨rfl, rfl, offer⟩ := forDialect_eq_ok_iff.mp made
  obtain ⟨-, -, offer'⟩ := forDialect_eq_ok_iff.mp made'
  obtain ⟨before, offered, -⟩ := recognized_eq_ok_iff.mp runnable
  have read := offer.symm.trans offered
  constructor
  · rintro ⟨place, bytes, rfl, fit⟩ σ answering states database
    obtain _ | ⟨member, leads, free, _ | _⟩ := new
    obtain ⟨after, again⟩ :=
      (Source.exists_directories_put_iff bytes free member leads read).mpr fit
    obtain ⟨script, perm⟩ := Source.exists_perm_of_put free member leads read again
    exact run_of_perm_cons same offered (offer'.trans again)
      (Source.nodup_names_of_directories read) (Source.nodup_names_of_directories again) other
      perm answering states database
  · intro unfit
    have unreadable : ¬ ∃ after, Source.directories larger base overrides = .ok after := by
      rcases added with _ | ⟨⟨place, bytes⟩, _ | ⟨second, more⟩⟩
      · exact absurd rfl nonempty
      · obtain _ | ⟨member, leads, free, _ | _⟩ := new
        rw [Source.exists_directories_put_iff bytes free member leads read]
        exact fun fit => unfit ⟨place, bytes, rfl, fit⟩
      · exact Source.not_exists_directories_of_added read (by simp) new
    cases again : Source.directories larger base overrides with
    | ok after => exact absurd ⟨after, again⟩ unreadable
    | error failure =>
        exact ⟨failure, fun states => fails_of_unreadable (offer'.trans again) states⟩

/-- Two directories, with a script in the first one. -/
def shelves : FileTree :=
  ⟨[(["a"], .directory), (["b"], .directory), (["a", "001.sql"], .file ⟨#[45, 45]⟩)], []⟩

/-- The runner with the settings of the default configuration over both directories. -/
def reading (tree : FileTree) : Runner :=
  { single ⟨scriptName, "--"⟩ with offer := Source.directories tree ["a", "b"] [] }

theorem forDialect_reading (tree : FileTree) :
    forDialect .duckDb Settings.default (Source.directories tree ["a", "b"] []) =
      .ok (reading tree) :=
  forDialect_eq_ok_iff.mpr ⟨rfl, rfl, rfl⟩

theorem recognized_shelves : (reading shelves).recognized = .ok ([⟨scriptName, "--"⟩], []) := by
  have read : ["a", "b"].mapM (Source.scripts shelves) =
      .ok [[⟨"a/001.sql", ⟨scriptName, "--"⟩⟩], []] := by rfl
  have offered : Source.directories shelves ["a", "b"] [] = .ok [⟨scriptName, "--"⟩] :=
    Source.directories_eq_ok_iff.mpr ⟨_, [], read, rfl, by decide +kernel, by simp [Migration.sort]⟩
  have scripts : (reading shelves).scripts [⟨scriptName, "--"⟩] = [⟨scriptName, "--"⟩] := by
    decide +kernel
  refine recognized_eq_ok_iff.mpr ⟨_, offered, by decide +kernel, ?_, by decide +kernel⟩
  rw [scripts]
  simp [Migration.sort]

theorem resultOn_shelves : (reading shelves).resultOn .none [] {} = .ok ⟨[scriptName], [], []⟩ := by
  rw [resultOn, run, recognized_shelves]
  decide +kernel

/-- The first directory with another file. -/
def shelved (bytes : ByteArray) : FileTree := shelves.put ["a", noteName.text] (.file bytes)

theorem added_shelved (bytes : ByteArray) :
    FileTree.Added ["a", "b"] noteName.text shelves [(["a"], bytes)] (shelved bytes) :=
  .cons List.mem_cons_self (by decide +kernel : shelves.place? "a" = some ["a"]) (by rfl) (.nil _)

/-- A file that holds the text `Hi`. -/
def note : ByteArray := ⟨#[72, 105]⟩

/-- A note is put next to a script. -/
theorem run_added_note :
    FileTree.Added ["a", "b"] noteName.text shelves [(["a"], note)] (shelved note) ∧
      noteName.hasExtension Settings.default.extension = false ∧
      (reading shelves).recognized = .ok ([⟨scriptName, "--"⟩], []) ∧
      Source.FitIn shelves ["a", "b"] noteName.text [(["a"], note)] ∧
      (reading shelves).resultOn .none [] {} = .ok ⟨[scriptName], [], []⟩ ∧
      (reading (shelved note)).resultOn .none [] {} = .ok ⟨[scriptName], [], [noteName]⟩ := by
  have other : noteName.hasExtension Settings.default.extension = false := by decide +kernel
  have fit : Source.FitIn shelves ["a", "b"] noteName.text [(["a"], note)] := by
    have first : shelves.files? "a" = some [("001.sql", .file ⟨#[45, 45]⟩)] := by rfl
    have second : shelves.files? "b" = some [] := by rfl
    refine ⟨["a"], note, rfl, by decide +kernel, by decide +kernel, ?_⟩
    simp [FileTree.Lists, first, second, noteName]
  obtain ⟨-, held, -⟩ := (run_added (by simp) (added_shelved note) other (forDialect_reading _)
    (forDialect_reading _) recognized_shelves).1 fit Recording (Recording.answering .none) [] {}
  have after : (reading (shelved note)).resultOn .none [] {} =
      ((reading shelves).resultOn .none [] {}).map (·.ignoring noteName) :=
    congrArg (fun ended => ended.1.2) held
  refine ⟨added_shelved note, other, recognized_shelves, fit, resultOn_shelves, ?_⟩
  rw [after, resultOn_shelves]
  simp [Except.map, Report.ignoring, MigrationName.sort]

/-- A file without a text and a name in two directories stop a run that went through
before. -/
theorem run_stopped_by_note :
    noteName.hasExtension Settings.default.extension = false ∧
      (reading shelves).resultOn .none [] {} = .ok ⟨[scriptName], [], []⟩ ∧
      (FileTree.Added ["a", "b"] noteName.text shelves [(["a"], ⟨#[255]⟩)] (shelved ⟨#[255]⟩) ∧
        (reading (shelved ⟨#[255]⟩)).resultOn .none [] {} = .error (.source "a/notes.txt")) ∧
      ∃ larger, FileTree.Added ["a", "b"] noteName.text shelves
          [(["a"], note), (["b"], note)] larger ∧
        (reading larger).resultOn .none [] {} =
          .error (.duplicate noteName "a/notes.txt" "b/notes.txt") := by
  refine ⟨by decide +kernel, resultOn_shelves, ⟨added_shelved _, by decide +kernel⟩,
    (shelved note).put ["b", noteName.text] (.file note), ?_, by decide +kernel⟩
  exact .cons List.mem_cons_self (by decide +kernel : shelves.place? "a" = some ["a"]) (by rfl)
    (.cons (List.mem_cons_of_mem _ List.mem_cons_self)
      (by decide +kernel : (shelved note).place? "b" = some ["b"]) (by rfl) (.nil _))

end Runner

end MigrationLedger
