import Phrasebook.Proofs.Files.Discover
import Phrasebook.Proofs.Files.Write
import Phrasebook.Proofs.Run.Session
import Phrasebook.Proofs.Text.Digits
import Phrasebook.Proofs.Text.Utf8
import Phrasebook.Run.Batch

/-! What a run over many files does to them. -/

namespace Phrasebook.Batch

open Session

variable {parser : Parser} {settings : Settings} {base p : FilePath} {s s' : Store}
  {r : Store.Refusals}

def examine (parser : Parser) (settings : Settings) (s : Store) (p : FilePath) :
    Except Fault (Option (Text × Text)) :=
  s.isLink p >>= fun isLink =>
    if isLink then .ok none else
    exceededLimit? settings s p >>= fun limit =>
      if limit.isSome then .ok none else
      s.read p >>= fun bytes => Utf8.decodeFault bytes >>= fun code =>
      (transformCode parser settings code (some p.toText)).result >>= fun out =>
      .ok (if !out.modified || out.code == code then none else some (code, out.code))

def reportOf (settings : Settings) (base p : FilePath) (former new : Text) : FileResult :=
  ⟨true, if settings.emitDiff then
    some (Diff.unified former new (FilePath.parse (p.relativeTo base)).toText) else none⟩

def rewrite (settings : Settings) (r : Store.Refusals) (s : Store) (p : FilePath)
    (former new : Text) : Store × Except Fault Unit :=
  if settings.backup then
    match backupPath p former with
    | .error fault => (s, .error fault)
    | .ok q =>
      match s.atomicWrite r q former with
      | (s, .error fault) => (s, .error fault)
      | (s, .ok ()) => s.atomicWrite r p new
  else s.atomicWrite r p new

def writeFault (p : FilePath) : Fault → Fault
  | .system fault => .write p.toText fault.message
  | fault => fault

def fileEffect (parser : Parser) (settings : Settings) (base : FilePath) (r : Store.Refusals)
    (s : Store) (p : FilePath) : Except Fault FileResult × Store :=
  match examine parser settings s p with
  | .error fault => (.error fault, s)
  | .ok none => (.ok unchanged, s)
  | .ok (some (former, new)) =>
    if settings.dryRun then (.ok (reportOf settings base p former new), s)
    else match rewrite settings r s p former new with
      | (s, .ok ()) => (.ok (reportOf settings base p former new), s)
      | (s, .error fault) => (.error (writeFault p fault), s)

theorem does_transformTimed (code path : Text) :
    Does (transformTimed parser settings code path) s r
      (transformCode parser settings code (some path)).result s := by
  unfold transformTimed transformCode
  have hparse := (does_ofLogged (s := s) (r := r)
    (parseLogged parser settings.backend code (some path))).measure "parse" [("file", .str path)]
      fun _ => []
  show Does _ s r (Logged.bind _ _).result s
  unfold Logged.bind
  cases h : (parseLogged parser settings.backend code (some path)).result with
  | error fault =>
    rw [h] at hparse
    exact hparse.bind_error
  | ok tree =>
    rw [h] at hparse
    exact hparse.bind ((does_ofLogged _).measure _ _ _)

theorem does_writeBack (settings : Settings) (p : FilePath) (s : Store) (r : Store.Refusals)
    (former new : Text) :
    Does (writeBack settings p former new) s r
      ((rewrite settings r s p former new).2.mapError (writeFault p))
      (rewrite settings r s p former new).1 := by
  unfold writeBack
  have hwrite : Does (do
      if settings.backup then Session.writeFile (← backupPath p former) former
      Session.writeFile p new) s r (rewrite settings r s p former new).2
        (rewrite settings r s p former new).1 := by
    unfold rewrite
    cases settings.backup with
    | false => exact does_writeFile p new
    | true =>
      have hpath := does_lift (s := s) (r := r) (backupPath p former)
      rw [if_pos rfl]
      cases hq : backupPath p former with
      | error fault =>
        rw [hq] at hpath
        exact hpath.bind_error
      | ok q =>
        rw [hq] at hpath
        have hfirst := does_writeFile (s := s) (r := r) q former
        refine hpath.bind ?_
        dsimp only
        generalize s.atomicWrite r q former = done at hfirst
        obtain ⟨s', result⟩ := done
        cases result with
        | error fault => exact hfirst.bind_error
        | ok u => exact hfirst.bind (does_writeFile p new)
  refine hwrite.attempt.bind ?_
  cases (rewrite settings r s p former new).2 with
  | ok u => exact does_pure ()
  | error fault => cases fault <;> exact does_throw _

theorem does_processFile (parser : Parser) (settings : Settings) (base p : FilePath) (s : Store)
    (r : Store.Refusals) :
    Does (processFile parser settings base p) s r (fileEffect parser settings base r s p).1
      (fileEffect parser settings base r s p).2 := by
  unfold processFile
  refine does_get fun w hs _ => ?_
  rw [hs]
  refine (does_lift (s.isLink p)).cases (fun fault h => ?_) fun isLink hlink => ?_
  · rw [fileEffect, examine, h]
    rfl
  cases isLink with
  | true =>
    rw [fileEffect, examine, hlink]
    exact (does_say _ _).bind (does_pure _)
  | false =>
  refine (does_lift (exceededLimit? settings s p)).cases (fun fault h => ?_) fun limit hlimit => ?_
  · rw [fileEffect, examine, hlink, h]
    rfl
  cases limit with
  | some limit =>
    rw [fileEffect, examine, hlink, hlimit]
    exact (does_say _ _).bind (does_pure _)
  | none =>
  refine (does_readFile p).cases (fun fault h => ?_) fun bytes hbytes => ?_
  · rw [fileEffect, examine, hlink, hlimit, h]
    rfl
  have hexamine : examine parser settings s p = Utf8.decodeFault bytes >>= fun code =>
      (transformCode parser settings code (some p.toText)).result >>= fun out =>
      .ok (if !out.modified || out.code == code then none else some (code, out.code)) := by
    rw [examine, hlink, hlimit, hbytes]
    rfl
  refine (does_lift (Utf8.decodeFault bytes)).cases (fun fault h => ?_) fun code hcode => ?_
  · rw [fileEffect, hexamine, h]
    rfl
  have hpassed : examine parser settings s p =
      (transformCode parser settings code (some p.toText)).result >>= fun out =>
      .ok (if !out.modified || out.code == code then none else some (code, out.code)) := by
    rw [hexamine, hcode]
    rfl
  refine (does_transformTimed code p.toText).cases (fun fault h => ?_) fun out hout => ?_
  · rw [fileEffect, hpassed, h]
    rfl
  have hfound : examine parser settings s p =
      .ok (if !out.modified || out.code == code then none else some (code, out.code)) := by
    rw [hpassed, hout]
    rfl
  by_cases hsame : (!out.modified || out.code == code) = true
  · rw [fileEffect, hfound, if_pos hsame, if_pos hsame]
    exact does_pure unchanged
  rw [if_neg hsame] at hfound ⊢
  cases hdry : settings.dryRun with
  | true =>
    rw [fileEffect, hfound, hdry]
    exact does_pure _
  | false =>
  have hwrite := (does_writeBack settings p s r code out.code).measure "write"
    [("file", .str p.toText)] fun _ => []
  rw [fileEffect, hfound, hdry]
  dsimp only
  generalize rewrite settings r s p code out.code = done at hwrite
  obtain ⟨s', result⟩ := done
  cases result with
  | ok u => exact hwrite.bind (does_pure _)
  | error fault => exact hwrite.bind_error

def Result.with (result : Result) (shown : Text) : Except Fault FileResult → Result
  | .error _ => { result with
    timings := result.timings ++ [(shown, Number.double 0)], failed := result.failed ++ [shown] }
  | .ok done => { result with
    timings := result.timings ++ [(shown, Number.double 0)]
    processed := if done.changed then result.processed ++ [shown] else result.processed
    diffs := match done.diff with
      | some (c :: more) => result.diffs ++ [c :: more]
      | _ => result.diffs }

def allEffect (parser : Parser) (settings : Settings) (base : FilePath) (r : Store.Refusals) :
    List FilePath → Result → Store → Except Fault Result × Store
  | [], result, s => (.ok result, s)
  | p :: rest, result, s =>
    match fileEffect parser settings base r s p with
    | (.error fault, s) =>
      if fault.isContained then
        allEffect parser settings base r rest (result.with (p.relativeTo base) (.error fault)) s
      else (.error fault, s)
    | (.ok done, s) =>
      allEffect parser settings base r rest (result.with (p.relativeTo base) (.ok done)) s

theorem does_processAll (files : List FilePath) (result : Result) (s : Store) :
    Does (processAll parser settings base files result) s r
      (allEffect parser settings base r files result s).1
      (allEffect parser settings base r files result s).2 := by
  induction files generalizing result s with
  | nil => exact does_pure result
  | cons p rest ih =>
    rw [processAll, allEffect]
    refine (does_processFile parser settings base p s r).attempt.bind ?_
    obtain ⟨done, s'⟩ := fileEffect parser settings base r s p
    cases done with
    | error fault =>
      cases hcontained : fault.isContained with
      | true =>
        simp only [hcontained]
        exact (does_say _ _).bind (ih _ s')
      | false =>
        simp only [hcontained]
        exact does_throw fault
    | ok done =>
      obtain ⟨changed, diff⟩ := done
      have hrest := ih (result.with (p.relativeTo base) (.ok ⟨changed, diff⟩)) s'
      cases changed with
      | true => exact (does_print _).bind hrest
      | false => exact hrest

/-- The files of a run, if its pattern is a text. -/
def filesOf (settings : Settings) (base : FilePath) (s : Store) : Except Fault (List FilePath) :=
  match settings.sourcePattern with
  | .str pattern => Discover.files s base pattern settings.ignoreGlobs
  | _ => .error .wrongType

theorem does_discover (settings : Settings) (base : FilePath) (s : Store) (r : Store.Refusals) :
    Does (Session.discover base settings.sourcePattern settings.ignoreGlobs) s r
      (filesOf settings base s) s := by
  unfold filesOf Session.discover
  split
  next pattern hpattern =>
    rw [hpattern]
    refine (does_pure pattern).bind (does_get fun w hs _ => ?_)
    rw [hs]
    exact does_lift _
  next hpattern =>
    cases hsource : settings.sourcePattern with
    | str pattern => exact (hpattern pattern hsource).elim
    | _ => exact (does_throw .wrongType).bind_error

theorem does_run (parser : Parser) (settings : Settings) (base : FilePath) (s : Store)
    (r : Store.Refusals) {files : List FilePath} (h : filesOf settings base s = .ok files) :
    Does (run parser settings base) s r (allEffect parser settings base r files {} s).1
      (allEffect parser settings base r files {} s).2 := by
  have hdiscover := does_discover settings base s r
  rw [h] at hdiscover
  unfold run
  refine hdiscover.bind ?_
  have hend : Does (do
      Session.say .info ("Found " ++ Text.ofNat files.length ++ " files matching " ++
        textOf settings.sourcePattern)
      let result ← processAll parser settings base files {}
      Session.flushMonitor
      return result) s r (allEffect parser settings base r files {} s).1
      (allEffect parser settings base r files {} s).2 := by
    refine (does_say _ _).bind ?_
    refine (does_processAll files {} s).cases (fun fault h => ?_) fun result h => ?_
    · rw [← h]
    · rw [h]
      exact does_flushMonitor.bind (does_pure result)
  dsimp only
  split
  · exact (does_say _ _).bind hend
  · exact hend

theorem exists_of_run {w w' : World} {result : Result}
    (h : exec (run parser settings base) w = (.ok result, w')) :
    ∃ files, filesOf settings base w.store = .ok files ∧
      allEffect parser settings base w.refusals files {} w.store = (.ok result, w'.store) := by
  cases hfiles : filesOf settings base w.store with
  | error fault =>
    have hdiscover := does_discover settings base w.store w.refusals
    rw [hfiles] at hdiscover
    obtain ⟨hfault, -⟩ := hdiscover.bind_error (f := _) w rfl rfl
    rw [show exec (Session.discover base settings.sourcePattern settings.ignoreGlobs >>= _) w = _ from h]
      at hfault
    cases hfault
  | ok files =>
    refine ⟨files, rfl, ?_⟩
    obtain ⟨hresult, hstore, -⟩ := does_run parser settings base w.store w.refusals hfiles w rfl rfl
    rw [h] at hresult hstore
    exact Prod.ext hresult.symm hstore.symm

end Phrasebook.Batch
