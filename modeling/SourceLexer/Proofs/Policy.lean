import SourceLexer.Proofs.Calls
import SourceLexer.Proofs.Diagnosis

/-!
# Policies on errors

A lexer can be strict, and it can be so for some calls only; and its collector can have a limit.
Such a policy decides what becomes of bad text: whether it is a token, whether it is recorded and
whether the call fails.  It does not decide what is found and where.

## Beside a run without a policy

Every call of a row is compared with the call of the same number in the row that nothing stops.
`Step.Follows` is the comparison.  Both calls leave the cursor at the same place, because a fault is
reported when the bad text has been passed (`Lexer.cursor_stateBefore_guarded`), so a call that
fails neither repeats text nor skips any.

## Where runs stop

A run under a policy stops in front of the first call that fails (`Lexer.drainWith_stops`).  In the
two cases that matter most this is worked out on the tokens: a strict run has those in front of the
first error (`Lexer.drain_strict`), and a run with a limit has those in front of the error that
reaches it (`Lexer.drain_limited`).  Both are read off the scans of the run, which such a policy
settles one after the other (`Lexer.drain_eq_settleAll`).
-/

namespace SourceLexer

open Lexeme

/-! ## Reports -/

namespace Collector

variable {collector : Collector}

theorem size_push (collector : Collector) (diagnostic : Diagnostic) :
    (collector.push diagnostic).size = collector.size + 1 := by
  rw [size, push, Array.size_push]
  rfl

/-- The report that reaches the limit fails. -/
theorem report_of_limit_le {limit : Nat} (hlimit : collector.limit = some limit)
    (hle : limit ≤ collector.size + 1) (diagnostic : Diagnostic) :
    collector.report diagnostic = (.error (.limitReached limit), collector.push diagnostic) := by
  have hreached : (collector.push diagnostic).reached? = some limit := by
    rw [reached?, limit_push, hlimit, size_push]
    simpa using hle
  rw [report, hreached]

/-- A report that does not reach the limit does not fail. -/
theorem report_of_lt_limit (h : ∀ limit, collector.limit = some limit → collector.size + 1 < limit)
    (diagnostic : Diagnostic) :
    collector.report diagnostic = (.ok (), collector.push diagnostic) := by
  have hreached : (collector.push diagnostic).reached? = none := by
    rw [reached?, limit_push, size_push, Option.filter_eq_none_iff]
    intro limit hlimit
    have hlt := h limit hlimit
    simpa using hlt
  rw [report, hreached]

end Collector

/-! ## Scans do not depend on the policy -/

namespace Cursor

variable (cursor : Cursor)

/-- Of the options a scan looks at the name of the text and at the wish for comments. -/
theorem scan_congr {first second : Options} (hfilename : first.filename = second.filename)
    (hkeep : first.keepComments = second.keepComments) :
    cursor.scan first = cursor.scan second := by
  rw [scan, scan, Scan.ofReading_filename first, Scan.ofReading_filename second, hfilename, hkeep]

end Cursor

namespace Lexer

/-! ## One call under a policy -/

section

variable {scan : Scan} {collector : Collector} {diagnostic : Diagnostic}

theorem settle_of_limit_le {limit : Nat} (h : scan.diagnostic = some diagnostic)
    (hlimit : collector.limit = some limit) (hle : limit ≤ collector.size + 1) :
    settle false scan collector
      = (.error (.limitReached limit), collector.push diagnostic) := by
  rw [settle_lenient_of_some h, Collector.report_of_limit_le hlimit hle]
  rfl

theorem settle_of_lt_limit (h : scan.diagnostic = some diagnostic)
    (hroom : ∀ limit, collector.limit = some limit → collector.size + 1 < limit) :
    settle false scan collector = (.ok scan.token, collector.push diagnostic) := by
  rw [settle_lenient_of_some h, Collector.report_of_lt_limit hroom]
  rfl

end

/-- A call under a policy, `step`, beside the call that nothing stops, `plain`.  Each comes with
what its collector held before. -/
structure Step.Follows (strict : Bool) (limit : Option Nat) (held : Collector) (step : Step Token)
    (plainHeld : Collector) (plain : Step Token) : Prop where
  cursor_eq : step.lexer.cursor = plain.lexer.cursor
  answers : ∃ token, plain.outcome = .ok token
  of_token : ∀ token, plain.outcome = .ok token → token.kind ≠ .error →
    plain.collector = plainHeld ∧ step.outcome = .ok token ∧ step.collector = held
  of_error : ∀ token, plain.outcome = .ok token → token.kind = .error →
    ∃ diagnostic, plain.collector = plainHeld.push diagnostic
      ∧ (strict = true →
          step.outcome = .error (.lexical diagnostic) ∧ step.collector = held)
      ∧ (strict = false →
          step.collector = held.push diagnostic
            ∧ (∀ most, limit = some most → most ≤ held.size + 1 →
                step.outcome = .error (.limitReached most))
            ∧ ((∀ most, limit = some most → held.size + 1 < most) → step.outcome = .ok token))

/-- A token that is returned under a policy is returned without one. -/
theorem Step.Follows.eq_of_ok {strict : Bool} {limit : Option Nat} {held plainHeld : Collector}
    {step plain : Step Token} (h : step.Follows strict limit held plainHeld plain) {token : Token}
    (hstep : step.outcome = .ok token) : plain.outcome = .ok token := by
  obtain ⟨found, hfound⟩ := h.answers
  have heq : ∀ {other}, step.outcome = .ok other → token = other := by
    intro other hother
    rw [hstep] at hother
    exact Except.ok.inj hother
  by_cases hkind : found.kind = .error
  · obtain ⟨diagnostic, -, hstrict, hlenient⟩ := h.of_error found hfound hkind
    cases strict with
    | true =>
      have hfails := (hstrict rfl).1
      rw [hstep] at hfails
      cases hfails
    | false =>
      obtain ⟨-, hreached, hroom⟩ := hlenient rfl
      have hlt : ∀ most, limit = some most → held.size + 1 < most := by
        intro most hmost
        by_contra hle
        have hfails := hreached most hmost (Nat.le_of_not_lt hle)
        rw [hstep] at hfails
        cases hfails
      rw [heq (hroom hlt)]
      exact hfound
  · rw [heq (h.of_token found hfound hkind).2.1]
    exact hfound

/-- A call that fails under a policy finds bad text without one. -/
theorem Step.Follows.kind_of_error {strict : Bool} {limit : Option Nat}
    {held plainHeld : Collector} {step plain : Step Token}
    (h : step.Follows strict limit held plainHeld plain) {failure : Failure} {token : Token}
    (hstep : step.outcome = .error failure) (hplain : plain.outcome = .ok token) :
    token.kind = .error := by
  by_contra hkind
  have hok := (h.of_token token hplain hkind).2.1
  rw [hstep] at hok
  cases hok

/-- What a policy makes of a scan, beside what becomes of it otherwise. -/
theorem settle_follows {scan : Scan} {strict : Bool} {held plainHeld : Collector}
    {step plain : Step Token}
    (hscan : scan.Coherent)
    (hcursor : step.lexer.cursor = plain.lexer.cursor)
    (hstep : (step.outcome, step.collector) = settle strict scan held)
    (hplain : (plain.outcome, plain.collector) = settle false scan plainHeld)
    (hlimit : plainHeld.limit = none) : step.Follows strict held.limit held plainHeld plain := by
  rw [settle_of_no_limit hlimit] at hplain
  obtain ⟨houtcome, hcollector⟩ := Prod.mk.inj hplain
  have htoken : ∀ token, plain.outcome = .ok token → token = scan.token := by
    intro token h
    rw [houtcome] at h
    exact (Except.ok.inj h).symm
  refine ⟨hcursor, ⟨_, houtcome⟩, ?_, ?_⟩
  · intro token h hkind
    obtain rfl := htoken token h
    have hnone : scan.diagnostic = none := by
      rw [Option.eq_none_iff_forall_ne_some]
      intro diagnostic hdiagnostic
      exact hkind (hscan.of_some diagnostic hdiagnostic).1
    rw [settle_of_none hnone] at hstep
    obtain ⟨hout, hheld⟩ := Prod.mk.inj hstep
    rw [hnone] at hcollector
    exact ⟨hcollector, hout, hheld⟩
  · intro token h hkind
    obtain rfl := htoken token h
    obtain ⟨diagnostic, hdiagnostic⟩ := hscan.kind_eq_error_iff.1 hkind
    rw [hdiagnostic] at hcollector
    refine ⟨diagnostic, hcollector, ?_, ?_⟩
    · rintro rfl
      rw [settle_strict_of_some hdiagnostic] at hstep
      exact Prod.mk.inj hstep
    · rintro rfl
      refine ⟨?_, ?_, ?_⟩
      · rw [settle_lenient_of_some hdiagnostic] at hstep
        exact (Prod.mk.inj hstep).2.trans (Collector.snd_report held diagnostic)
      · intro most hmost hle
        rw [settle_of_limit_le hdiagnostic hmost hle] at hstep
        exact (Prod.mk.inj hstep).1
      · intro hlt
        rw [settle_of_lt_limit hdiagnostic hlt] at hstep
        exact (Prod.mk.inj hstep).1

/-! ## Rows of calls under a policy -/

/-- The options of a row of calls some of which are strict. -/
def guarded (filename : String) (keepComments : Bool) (strict : Nat → Bool) (call : Nat) :
    Options :=
  { filename, strict := strict call, keepComments }

/-- The options of a row of calls that nothing stops. -/
def unguarded (filename : String) (keepComments : Bool) : Nat → Options :=
  fun _ => { filename, keepComments }

section

variable {filename : String} {keepComments : Bool} {strict : Nat → Bool} {lexer : Lexer}
  {collector plainCollector : Collector}

theorem scan_guarded (cursor : Cursor) (call : Nat) :
    cursor.scan (guarded filename keepComments strict call)
      = cursor.scan (unguarded filename keepComments call) :=
  cursor.scan_congr rfl rfl

/-- Every call finds the cursor where it would have been without the policy. -/
theorem cursor_stateBefore_guarded (hopen : lexer.closed = false) (call : Nat) :
    (stateBefore (guarded filename keepComments strict) lexer collector call).1.cursor
      = (stateBefore (unguarded filename keepComments) lexer plainCollector call).1.cursor := by
  induction call with
  | zero => rfl
  | succ call ih =>
    rw [stateBefore_succ, stateBefore_succ]
    show (callAt _ lexer collector call).lexer.cursor
      = (callAt _ lexer plainCollector call).lexer.cursor
    rw [cursor_callAt hopen, cursor_callAt hopen, ih, scan_guarded]

/-- Call by call a row under a policy follows the one that nothing stops. -/
theorem callAt_guarded_follows (hopen : lexer.closed = false)
    (hlimit : plainCollector.limit = none) (call : Nat) :
    (callAt (guarded filename keepComments strict) lexer collector call).Follows (strict call)
      collector.limit
      (stateBefore (guarded filename keepComments strict) lexer collector call).2
      (stateBefore (unguarded filename keepComments) lexer plainCollector call).2
      (callAt (unguarded filename keepComments) lexer plainCollector call) := by
  have hbefore : (stateBefore (guarded filename keepComments strict) lexer collector call).1.cursor
      = (stateBefore (unguarded filename keepComments) lexer plainCollector call).1.cursor :=
    cursor_stateBefore_guarded hopen call
  have hcursor : (callAt (guarded filename keepComments strict) lexer collector
      call).lexer.cursor
        = (callAt (unguarded filename keepComments) lexer plainCollector call).lexer.cursor := by
    rw [cursor_callAt hopen, cursor_callAt hopen, hbefore, scan_guarded]
  have hstep : ((callAt (guarded filename keepComments strict) lexer collector call).outcome,
      (callAt (guarded filename keepComments strict) lexer collector call).collector) = _ :=
    settle_callAt hopen call
  have hplain : ((callAt (unguarded filename keepComments) lexer plainCollector call).outcome,
      (callAt (unguarded filename keepComments) lexer plainCollector call).collector) = _ :=
    settle_callAt hopen call
  rw [hbefore, scan_guarded] at hstep
  have hfollows := settle_follows (Cursor.coherent_scan _ _) hcursor hstep hplain
    ((limit_stateBefore call).trans hlimit)
  rwa [limit_stateBefore] at hfollows

end

/-! ## Where a run under a policy stops -/

/-- A run that stops in front of the first call that fails, beside the run that nothing stops. -/
structure Run.StopsIn (run plain : Run) (row : Nat → Step Token) : Prop where
  token : ∀ call token, run.tokens[call]? = some token →
    plain.tokens[call]? = some token ∧ (row call).outcome = .ok token
  whole : run.failure = none → run.tokens = plain.tokens
  failure : ∀ failure, run.failure = some failure →
    (row run.tokens.length).outcome = .error failure
      ∧ ∃ token, plain.tokens[run.tokens.length]? = some token ∧ token.kind = .error

namespace Run.IsFront

variable {run plain : Run} {row plainRow : Nat → Step Token}

/-- Every call in front of the end of a run has returned the token that stands in its place. -/
theorem exists_token (h : run.IsFront row) {call : Nat} (hcall : call < run.tokens.length) :
    ∃ token, run.tokens[call]? = some token ∧ (row call).outcome = .ok token := by
  have hfound : run.tokens[call]? = some run.tokens[call] := List.getElem?_eq_getElem hcall
  exact ⟨_, hfound, h.token call _ hfound⟩

/-- A run that goes as far as the end of the input in another row ends there as well. -/
theorem ends_with (h : run.IsFront row) (hplain : plain.IsFront plainRow)
    (hok : ∀ call token, (row call).outcome = .ok token → (plainRow call).outcome = .ok token)
    {last : Nat} {final : Token} (hfinal : plain.tokens[last]? = some final)
    (hend : final.kind = .endOfInput) (hlast : last < run.tokens.length) :
    run.tokens.length = last + 1 ∧ run.failure = none := by
  obtain ⟨token, hfound, hrow⟩ := h.exists_token hlast
  have hsame := hok last token hrow
  rw [hplain.token last final hfinal] at hsame
  obtain rfl := Except.ok.inj hsame
  exact h.last last final hfound hend

/-- The beginning of a row that follows another one stops in the beginning of that one. -/
theorem stopsIn (h : run.IsFront row) (hplain : plain.IsFront plainRow)
    (hwhole : plain.failure = none)
    (hok : ∀ call token, (row call).outcome = .ok token → (plainRow call).outcome = .ok token)
    (herror : ∀ call failure, (row call).outcome = .error failure →
      ∀ token, (plainRow call).outcome = .ok token → token.kind = .error) :
    run.StopsIn plain row := by
  obtain ⟨last, final, hfinal, hend⟩ := hplain.finished hwhole
  obtain ⟨hlength, -⟩ := hplain.last last final hfinal hend
  -- where the plain run ends, the other one does as well, unless it has stopped before
  have hends := h.ends_with hplain hok hfinal hend
  have htoken : ∀ call token, run.tokens[call]? = some token →
      plain.tokens[call]? = some token ∧ (row call).outcome = .ok token := by
    intro call token hfound
    have hcall : call < run.tokens.length := (List.getElem?_eq_some_iff.1 hfound).1
    have hrow := h.token call token hfound
    have hinside : call < plain.tokens.length := by
      by_contra hout
      obtain ⟨hsame, -⟩ := hends (by omega)
      omega
    obtain ⟨other, hother, hplainOk⟩ := hplain.exists_token hinside
    rw [hok call token hrow] at hplainOk
    exact ⟨(Except.ok.inj hplainOk) ▸ hother, hrow⟩
  refine ⟨htoken, ?_, ?_⟩
  · intro hnone
    obtain ⟨call, token, hfound, hkind⟩ := h.finished hnone
    obtain ⟨hsame, -⟩ := h.last call token hfound hkind
    obtain ⟨hsame', -⟩ := hplain.last call token (htoken call token hfound).1 hkind
    refine List.ext_getElem? fun index => ?_
    by_cases hindex : index < run.tokens.length
    · obtain ⟨found, hget, -⟩ := h.exists_token hindex
      rw [hget, (htoken index found hget).1]
    · rw [List.getElem?_eq_none (by omega), List.getElem?_eq_none (by omega)]
  · intro failure hfailure
    have hfails := h.failure failure hfailure
    have hinside : run.tokens.length < plain.tokens.length := by
      by_contra hout
      obtain ⟨-, hnone⟩ := hends (by omega)
      rw [hnone] at hfailure
      cases hfailure
    obtain ⟨token, hfound, hplainOk⟩ := hplain.exists_token hinside
    exact ⟨hfails, token, hfound, herror _ failure hfails token hplainOk⟩

end Run.IsFront

/-- A run under a policy has the tokens in front of the first call that fails. -/
theorem drainWith_stops {filename : String} {keepComments : Bool} {strict : Nat → Bool}
    {lexer : Lexer} {collector plainCollector : Collector} (hopen : lexer.closed = false)
    (hlimit : plainCollector.limit = none) :
    (drainWith (guarded filename keepComments strict) lexer collector).StopsIn
      (drainWith (unguarded filename keepComments) lexer plainCollector)
      (callAt (guarded filename keepComments strict) lexer collector) := by
  have hlenient : Lenient filename (unguarded filename keepComments) :=
    ⟨fun _ => rfl, fun _ => rfl⟩
  refine (drainWith_isFront _ _ _).stopsIn (drainWith_isFront _ _ _)
    (drainWith_yields hopen hlenient hlimit).failure ?_ ?_
  · intro call token htoken
    exact (callAt_guarded_follows hopen hlimit call).eq_of_ok htoken
  · intro call failure hfailure token htoken
    exact (callAt_guarded_follows hopen hlimit call).kind_of_error hfailure htoken

/-! ## One policy throughout -/

/-- What becomes of scans one after the other: the tokens in front of the one that fails, the
failure, and the collector. -/
def settleAll (strict : Bool) :
    List Scan → Collector → List Token × Option Failure × Collector
  | [], collector => ([], none, collector)
  | scan :: scans, collector =>
    match settle strict scan collector with
    | (.error failure, held) => ([], some failure, held)
    | (.ok token, held) =>
      let rest := settleAll strict scans held
      (token :: rest.1, rest.2)

theorem settleAll_of_error {strict : Bool} {scan : Scan} {scans : List Scan}
    {collector held : Collector} {failure : Failure}
    (h : settle strict scan collector = (.error failure, held)) :
    settleAll strict (scan :: scans) collector = ([], some failure, held) := by
  rw [settleAll, h]

theorem settleAll_of_ok {strict : Bool} {scan : Scan} {scans : List Scan}
    {collector held : Collector} {token : Token}
    (h : settle strict scan collector = (.ok token, held)) :
    settleAll strict (scan :: scans) collector =
      (token :: (settleAll strict scans held).1, (settleAll strict scans held).2) := by
  rw [settleAll, h]

/-- A run is a matter of settling its scans. -/
theorem drain_eq_settleAll {lexer : Lexer} (collector : Collector)
    (hopen : lexer.closed = false) :
    ((drain lexer collector).tokens, (drain lexer collector).failure,
        (drain lexer collector).collector) =
      settleAll lexer.options.strict
        (lexer.cursor.scans lexer.options.filename (always lexer.options.keepComments))
        collector := by
  generalize hlive : lexer.cursor.live = text
  generalize hkeep : lexer.options.keepComments = keepComments
  induction text using outline_induction_always keepComments generalizing lexer collector with
  | gap gap hgap =>
    subst hkeep
    have hscan := Cursor.scan_of_gap hgap hlive
    have hnext := next_of_open hopen collector
    rw [hscan] at hnext
    rw [Cursor.scans_of_gap hgap hlive, drain_of_end (by rw [hnext]; rfl) rfl, hnext]
    rfl
  | piece gap reading behind hpiece ih =>
    subst hkeep
    have hscan := Cursor.scan_of_piece hpiece hlive
    have hnext := next_of_open hopen collector
    rw [Cursor.scans_of_piece hpiece hlive]
    rw [hscan] at hnext
    generalize hfound : Found.scan lexer.options.filename lexer.cursor ⟨gap.length, reading⟩ = scan
      at hnext
    cases hsettle : settle lexer.options.strict scan collector with
    | mk outcome held =>
      rw [hsettle] at hnext
      cases outcome with
      | error failure =>
        rw [settleAll_of_error hsettle, drain_of_error (by rw [hnext]), hnext]
      | ok token =>
        have htoken : token = scan.token := eq_token_of_settle (congrArg Prod.fst hsettle)
        have hkind : token.kind ≠ .endOfInput := by
          rw [htoken, ← hfound, Found.kind_scan]
          exact hpiece.kind_ne_endOfInput
        have hcursor : scan.cursor
            = lexer.cursor.advanceBy (gap.length + reading.text.length) := by
          rw [← hfound, Found.cursor_scan]
        rw [hcursor] at hnext
        have hrest := @ih
          { lexer with cursor := lexer.cursor.advanceBy (gap.length + reading.text.length) }
          held hopen (Cursor.live_advanceBy_of_piece hlive) rfl
        rw [settleAll_of_ok hsettle, drain_of_token (by rw [hnext]) hkind, hnext]
        exact congrArg (fun rest => (token :: rest.1, rest.2)) hrest

/-! ### Strict calls -/

/-- Strict calls stop in front of the first error and record nothing. -/
theorem settleAll_strict {scans : List Scan} (collector : Collector)
    (h : ∀ scan ∈ scans, scan.Coherent) :
    settleAll true scans collector =
      ((scans.map Scan.token).takeWhile (·.kind ≠ .error),
        (scans.filterMap Scan.diagnostic).head?.map Failure.lexical, collector) := by
  induction scans with
  | nil => rfl
  | cons scan scans ih =>
    have hscan := h scan List.mem_cons_self
    have hscans := ih fun scan hmem => h scan (List.mem_cons_of_mem _ hmem)
    cases hdiagnostic : scan.diagnostic with
    | none =>
      have hkind := hscan.of_none hdiagnostic
      rw [settleAll_of_ok (settle_of_none hdiagnostic true collector), hscans, List.map_cons,
        List.takeWhile_cons_of_pos (by simpa using hkind),
        List.filterMap_cons_none hdiagnostic]
    | some diagnostic =>
      have hkind := (hscan.of_some diagnostic hdiagnostic).1
      rw [settleAll_of_error (settle_strict_of_some hdiagnostic collector), List.map_cons,
        List.takeWhile_cons_of_neg (by simpa using hkind),
        List.filterMap_cons_some hdiagnostic]
      rfl

/-! ### Limits -/

/-- A limit stops nothing, or it stops in front of the error that reaches it, and records that
error. -/
theorem settleAll_limited {limit : Nat} (scans : List Scan) {collector : Collector}
    (hlimit : collector.limit = some limit) (hroom : collector.size < limit) :
    (collector.size + (scans.filterMap Scan.diagnostic).length < limit
      ∧ settleAll false scans collector =
          (scans.map Scan.token, none,
            (scans.filterMap Scan.diagnostic).foldl Collector.push collector))
    ∨ ∃ front scan diagnostic back, scans = front ++ scan :: back
      ∧ scan.diagnostic = some diagnostic
      ∧ collector.size + (front.filterMap Scan.diagnostic).length + 1 = limit
      ∧ settleAll false scans collector =
          (front.map Scan.token, some (.limitReached limit),
            (front.filterMap Scan.diagnostic ++ [diagnostic]).foldl Collector.push
              collector) := by
  induction scans generalizing collector with
  | nil => exact .inl ⟨hroom, rfl⟩
  | cons scan scans ih =>
    cases hdiagnostic : scan.diagnostic with
    | none =>
      rw [settleAll_of_ok (settle_of_none hdiagnostic false collector),
        List.filterMap_cons_none hdiagnostic]
      rcases ih hlimit hroom with
        ⟨hfew, hscans⟩ | ⟨front, last, found, back, rfl, hlast, hcount, hscans⟩
      · rw [hscans]
        exact .inl ⟨hfew, rfl⟩
      · rw [hscans]
        refine .inr ⟨scan :: front, last, found, back, rfl, hlast, ?_, ?_⟩
        · rwa [List.filterMap_cons_none hdiagnostic]
        · rw [List.filterMap_cons_none hdiagnostic]
          rfl
    | some diagnostic =>
      rw [List.filterMap_cons_some hdiagnostic]
      by_cases hlt : collector.size + 1 < limit
      · have hlimit' : (collector.push diagnostic).limit = some limit := hlimit
        have hsize := Collector.size_push collector diagnostic
        have hroom' : ∀ most, collector.limit = some most → collector.size + 1 < most := by
          intro most hmost
          rw [hlimit] at hmost
          exact Option.some.inj hmost ▸ hlt
        rw [settleAll_of_ok (settle_of_lt_limit hdiagnostic hroom')]
        rcases ih hlimit' (by omega) with
          ⟨hfew, hscans⟩ | ⟨front, last, found, back, rfl, hlast, hcount, hscans⟩
        · rw [hscans]
          refine .inl ⟨?_, rfl⟩
          rw [List.length_cons]
          omega
        · rw [hscans]
          refine .inr ⟨scan :: front, last, found, back, rfl, hlast, ?_, ?_⟩
          · rw [List.filterMap_cons_some hdiagnostic, List.length_cons]
            omega
          · rw [List.filterMap_cons_some hdiagnostic]
            rfl
      · rw [settleAll_of_error (settle_of_limit_le hdiagnostic hlimit (by omega))]
        refine .inr ⟨[], scan, diagnostic, scans, rfl, hdiagnostic, ?_, rfl⟩
        show collector.size + 0 + 1 = limit
        omega

/-! ### Runs beside the run that nothing stops -/

/-- A strict run beside the run that nothing stops: it has the tokens in front of the first error,
fails with what is recorded there, and records nothing itself. -/
structure Run.StrictBeside (run plain : Run) (collector : Collector) : Prop where
  tokens : run.tokens = plain.tokens.takeWhile (·.kind ≠ .error)
  failure : run.failure = plain.collector.toList.head?.map Failure.lexical
  collector : run.collector = collector

/-- A run with a limit beside the run that nothing stops: it has all the tokens if there are fewer
errors, and otherwise those in front of the error that reaches the limit.  That error is recorded
as well. -/
structure Run.LimitedBeside (run plain : Run) (limit : Nat) : Prop where
  recorded : run.collector.toList = plain.collector.toList.take limit
  whole : plain.collector.size < limit → run.tokens = plain.tokens ∧ run.failure = none
  reached : limit ≤ plain.collector.size →
    run.failure = some (.limitReached limit) ∧ ∃ token back,
      plain.tokens = run.tokens ++ token :: back ∧ token.kind = .error
        ∧ (run.tokens.filter (·.kind = .error)).length + 1 = limit

section

variable {run plain : Run} {limit : Nat}

/-- A run that is stopped by nothing although it has a limit. -/
theorem Run.LimitedBeside.of_few {scans : List Scan} (hplain : plain.Yields scans {})
    (hfew : (scans.filterMap Scan.diagnostic).length < limit)
    (htokens : run.tokens = scans.map Scan.token) (hfailure : run.failure = none)
    (hrecorded : run.collector.toList = scans.filterMap Scan.diagnostic) :
    run.LimitedBeside plain limit := by
  have hheld : plain.collector.toList = scans.filterMap Scan.diagnostic :=
    hplain.toList_collector
  have hsize : plain.collector.size < limit := by
    rwa [← Collector.length_toList, hheld]
  refine ⟨?_, ?_, ?_⟩
  · rw [hrecorded, hheld, List.take_of_length_le (Nat.le_of_lt hfew)]
  · intro _
    exact ⟨htokens.trans hplain.tokens.symm, hfailure⟩
  · intro hle
    omega

/-- A run that is stopped by its limit, in front of the given scan. -/
theorem Run.LimitedBeside.of_reached {front back : List Scan} {scan : Scan}
    {diagnostic : Diagnostic} (hplain : plain.Yields (front ++ scan :: back) {})
    (hcoherent : ∀ found ∈ front ++ scan :: back, found.Coherent)
    (hlast : scan.diagnostic = some diagnostic)
    (hcount : (front.filterMap Scan.diagnostic).length + 1 = limit)
    (htokens : run.tokens = front.map Scan.token)
    (hfailure : run.failure = some (.limitReached limit))
    (hrecorded : run.collector.toList = front.filterMap Scan.diagnostic ++ [diagnostic]) :
    run.LimitedBeside plain limit := by
  have hheld : plain.collector.toList
      = front.filterMap Scan.diagnostic ++ [diagnostic]
        ++ back.filterMap Scan.diagnostic := by
    refine hplain.toList_collector.trans ?_
    rw [List.filterMap_append, List.filterMap_cons_some hlast, List.append_cons]
    rfl
  have hcut : (front.filterMap Scan.diagnostic ++ [diagnostic]).length = limit := by
    rw [List.length_append, List.length_singleton, hcount]
  have hsize : limit ≤ plain.collector.size := by
    rw [← Collector.length_toList, hheld, List.length_append, hcut]
    omega
  have hscan := hcoherent scan (List.mem_append_right _ List.mem_cons_self)
  have herrors : (front.filterMap Scan.diagnostic).length
      = (run.tokens.filter (·.kind = .error)).length := by
    have hlabels := Scan.map_label_diagnostics fun found hfound =>
      hcoherent found (List.mem_append_left _ hfound)
    rw [htokens]
    simpa using congrArg List.length hlabels
  refine ⟨?_, ?_, ?_⟩
  · rw [hrecorded, hheld, ← hcut, List.take_left]
  · intro hlt
    omega
  · intro _
    refine ⟨hfailure, scan.token, back.map Scan.token, ?_,
      (hscan.of_some diagnostic hlast).1, ?_⟩
    · rw [hplain.tokens, htokens, List.map_append, List.map_cons]
    · omega

end

section

variable {lexer : Lexer} {plain : Run}

theorem drain_strict (hopen : lexer.closed = false) (hstrict : lexer.options.strict = true)
    (hplain : plain.Yields (lexer.cursor.scans lexer.options.filename
      (always lexer.options.keepComments)) {}) (collector : Collector) :
    (drain lexer collector).StrictBeside plain collector := by
  have hsettled := drain_eq_settleAll collector hopen
  rw [hstrict, settleAll_strict collector fun _ => Cursor.coherent_of_mem_scans,
    Prod.mk.injEq, Prod.mk.injEq] at hsettled
  obtain ⟨htokens, hfailure, hcollector⟩ := hsettled
  refine ⟨?_, ?_, hcollector⟩
  · rw [htokens, hplain.tokens]
  · rw [hfailure, hplain.toList_collector]
    rfl

theorem drain_limited (hopen : lexer.closed = false) (hstrict : lexer.options.strict = false)
    (hplain : plain.Yields (lexer.cursor.scans lexer.options.filename
      (always lexer.options.keepComments)) {}) {limit : Nat} (hpos : 0 < limit) :
    (drain lexer ⟨#[], some limit⟩).LimitedBeside plain limit := by
  have hsettled := drain_eq_settleAll ⟨#[], some limit⟩ hopen
  have hcoherent : ∀ scan ∈ lexer.cursor.scans lexer.options.filename
      (always lexer.options.keepComments), scan.Coherent :=
    fun _ => Cursor.coherent_of_mem_scans
  rw [hstrict] at hsettled
  generalize lexer.cursor.scans lexer.options.filename (always lexer.options.keepComments) = scans
    at hplain hsettled hcoherent
  have hempty : (⟨#[], some limit⟩ : Collector).size = 0 := rfl
  rcases @settleAll_limited limit scans ⟨#[], some limit⟩ rfl hpos with
    ⟨hfew, hscans⟩ | ⟨front, scan, diagnostic, back, rfl, hlast, hcount, hscans⟩
  · rw [hscans, Prod.mk.injEq, Prod.mk.injEq] at hsettled
    obtain ⟨htokens, hfailure, hcollector⟩ := hsettled
    refine .of_few hplain (by omega) htokens hfailure ?_
    rw [hcollector, Collector.toList_foldl_push]
    rfl
  · rw [hscans, Prod.mk.injEq, Prod.mk.injEq] at hsettled
    obtain ⟨htokens, hfailure, hcollector⟩ := hsettled
    refine .of_reached hplain hcoherent hlast (by omega) htokens hfailure ?_
    rw [hcollector, Collector.toList_foldl_push]
    rfl

end

/-- Taking the tokens of a source with a limit is draining a new lexer with it. -/
theorem tokenize_limited_eq_ok_drain (source : String) (options : Options) {limit : Nat}
    (hpos : 0 < limit) (hlimit : options.maxErrors = some (limit : Int)) :
    tokenize (.text source) options none =
      .ok { drain (fresh options source.toList) ⟨#[], some limit⟩ with
        lexer := (drain (fresh options source.toList) ⟨#[], some limit⟩).lexer.leave } := by
  have hcollector : Collector.ofLimit? options.maxErrors = .ok ⟨#[], some limit⟩ := by
    rw [hlimit, Collector.ofLimit?, if_neg (by omega), Int.toNat_natCast]
  have hcreate : create (.text source) options none
      = .ok (fresh options source.toList, ⟨#[], some limit⟩) := by
    show (do
      let collector ← Collector.ofLimit? options.maxErrors
      return (fresh options source.toList, collector) : Except Failure (Lexer × Collector)) = _
    rw [hcollector]
    rfl
  rw [tokenize, hcreate]
  rfl

/-! ## Every policy -/

/-- **Policies change what is done about errors, and nothing else.**  Whatever calls are strict and
whatever the limit is, every call of a new lexer leaves the cursor where it is left without a
policy; it returns the same token, unless that is an error, and then it fails with the diagnostic
if it is strict, fails because of the limit if the diagnostic reaches it, and otherwise returns the
error.  So a run stops in front of the first call that fails: in front of the first error if it is
strict, and in front of the error that reaches the limit if it has one. -/
theorem run_under_policy (filename source : String) (keepComments : Bool) (strict : Nat → Bool)
    (limit : Option Nat) :
    let lexer := fresh { filename, keepComments } source.toList
    let collector : Collector := ⟨#[], limit⟩
    let configure := guarded filename keepComments strict
    let plainly := unguarded filename keepComments
    (∀ call, (callAt configure lexer collector call).Follows (strict call) limit
        (stateBefore configure lexer collector call).2 (stateBefore plainly lexer {} call).2
        (callAt plainly lexer {} call))
    ∧ ∃ plain, tokenize (.text source) { filename, keepComments } none = .ok plain
      ∧ plain.failure = none ∧ plain.IsFront (callAt plainly lexer {})
      ∧ (drainWith configure lexer collector).StopsIn plain (callAt configure lexer collector)
      ∧ (∃ stopped, tokenize (.text source) { filename, strict := true, keepComments }
          (some collector) = .ok stopped ∧ stopped.StrictBeside plain collector)
      ∧ ∀ most : Nat, 0 < most → ∃ stopped,
          tokenize (.text source) { filename, keepComments, maxErrors := some most } none
            = .ok stopped ∧ stopped.LimitedBeside plain most := by
  intro lexer collector configure plainly
  have hyields := run_yields filename keepComments source.toList
  have hplain : run filename keepComments source.toList = drainWith plainly lexer {} :=
    drain_eq_drainWith _ _
  have hfront := drainWith_isFront plainly lexer {}
  have hstops : (drainWith configure lexer collector).StopsIn (drainWith plainly lexer {})
      (callAt configure lexer collector) := drainWith_stops rfl rfl
  rw [← hplain] at hfront hstops
  refine ⟨@callAt_guarded_follows filename keepComments strict lexer collector {} rfl rfl, _,
    tokenize_eq_ok_run filename keepComments source, hyields.failure, ?_, ?_, ?_, ?_⟩
  · exact ⟨hfront.token, hfront.last, hfront.failure, hfront.finished⟩
  · exact ⟨hstops.token, hstops.whole, hstops.failure⟩
  · refine ⟨_, tokenize_eq_ok_drain _ _ _, ?_⟩
    have hstrict := @drain_strict (fresh { filename, strict := true, keepComments } source.toList)
      _ rfl rfl hyields collector
    exact ⟨hstrict.tokens, hstrict.failure, hstrict.collector⟩
  · intro most hpos
    refine ⟨_, tokenize_limited_eq_ok_drain _ _ hpos rfl, ?_⟩
    have hlimited := @drain_limited
      (fresh { filename, keepComments, maxErrors := some most } source.toList) _ rfl rfl hyields
      most hpos
    exact ⟨hlimited.recorded, hlimited.whole, hlimited.reached⟩

end Lexer
end SourceLexer
