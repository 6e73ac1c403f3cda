import SourceLexer.CommandLine.Program
import SourceLexer.Proofs.Policy
import SourceLexer.Proofs.Text.ControlSequence
import SourceLexer.Proofs.Transparency

/-!
# What a dump leaves behind

The exit code says whether the source has errors, and no option changes that (`exit_perform_eq`).
The output shows the tokens in front of the error that stops the dump, or all of them.  The error
text is the error that stopped a strict dump, or else the report on what has been recorded, once,
and behind it the notice that the limit has been reached, if it has.

All this is said about the errors and the tokens of runs that nothing stops.  The errors are those
of a run with no options at all, so neither comments nor limits nor strictness have a part in them.

## Control sequences

The errors quote the source and its name, and there a control sequence can occur.  It is taken out
of what goes to the error text, so an error is not always shown as it is rendered
(`perform_strict_controlSequence`).  The output shows the texts of tokens escaped, and nothing is
taken out of it.

What takes them out is given from outside, and only `Text.Strips` is known of it.  The notice on a
limit is made of words and a number, so it stays as it is (`noticeBy_limitReached`).
-/

namespace SourceLexer
namespace CommandLine

open Lexeme
open Lexer (Run)

/-! ## What is to be expected -/

/-- The tokens in front of the error of the given number, or all of them if there are not so
many. -/
def beforeError (number : Nat) : List Token → List Token
  | [] => []
  | token :: tokens =>
    if token.kind = .error then
      if number ≤ 1 then [] else token :: beforeError (number - 1) tokens
    else token :: beforeError number tokens

/-- A report: every error followed by an empty line, and then their number. -/
def report (errors : List Diagnostic) : String :=
  let noun := if errors.length = 1 then "error" else "errors"
  String.join (errors.map fun error => error.render ++ "\n\n") ++ s!"{errors.length} {noun}"

namespace Job

variable (strip : String → String) (job : Job)

/-- The number of the error that stops the dump, if one does. -/
def stopsAt : Option Nat :=
  if job.strict then some 1 else job.limit

/-- The tokens that are shown of those of the source. -/
def shown (tokens : List Token) : List Token :=
  match job.stopsAt with
  | some number => beforeError number tokens
  | none => tokens

/-- What is told of the errors of the source.  Whatever quotes the source goes through `strip`. -/
def told (errors : List Diagnostic) : String :=
  match errors with
  | [] => ""
  | first :: _ =>
    if job.strict then strip first.render ++ "\n"
    else
      match job.limit.filter (· ≤ errors.length) with
      | none => strip (report errors) ++ "\n"
      | some limit =>
        strip (report (errors.take limit)) ++ "\n"
          ++ s!"Error: Too many errors ({limit}), stopping\n"

end Job

/-! ## Tokens in front of an error -/

theorem Job.shown_of_strict {job : Job} (hstrict : job.strict = true) (tokens : List Token) :
    job.shown tokens = beforeError 1 tokens := by
  rw [shown, stopsAt, if_pos hstrict]

theorem Job.shown_of_limit {job : Job} (hstrict : job.strict = false) {limit : Nat}
    (hlimit : job.limit = some limit) (tokens : List Token) :
    job.shown tokens = beforeError limit tokens := by
  rw [shown, stopsAt, hstrict, if_neg Bool.false_ne_true, hlimit]

theorem Job.shown_of_no_limit {job : Job} (hstrict : job.strict = false)
    (hlimit : job.limit = none) (tokens : List Token) : job.shown tokens = tokens := by
  rw [shown, stopsAt, hstrict, if_neg Bool.false_ne_true, hlimit]

theorem beforeError_one (tokens : List Token) :
    beforeError 1 tokens = tokens.takeWhile (·.kind ≠ .error) := by
  induction tokens with
  | nil => rfl
  | cons token tokens ih =>
    by_cases hkind : token.kind = .error
    · rw [beforeError, if_pos hkind, if_pos le_rfl,
        List.takeWhile_cons_of_neg (by simpa using hkind)]
    · rw [beforeError, if_neg hkind, ih, List.takeWhile_cons_of_pos (by simpa using hkind)]

/-- Fewer errors stop nothing. -/
theorem beforeError_of_lt {number : Nat} {tokens : List Token}
    (h : (tokens.filter (·.kind = .error)).length < number) :
    beforeError number tokens = tokens := by
  induction tokens generalizing number with
  | nil => rfl
  | cons token tokens ih =>
    by_cases hkind : token.kind = .error
    · rw [List.filter_cons_of_pos (by simpa using hkind), List.length_cons] at h
      rw [beforeError, if_pos hkind, if_neg (by omega), ih (by omega)]
    · rw [List.filter_cons_of_neg (by simpa using hkind)] at h
      rw [beforeError, if_neg hkind, ih h]

/-- The error of the given number stops what comes from there on. -/
theorem beforeError_append {number : Nat} {front back : List Token} {token : Token}
    (hkind : token.kind = .error) (h : (front.filter (·.kind = .error)).length + 1 = number) :
    beforeError number (front ++ token :: back) = front := by
  induction front generalizing number with
  | nil =>
    rw [List.filter_nil, List.length_nil] at h
    rw [List.nil_append, beforeError, if_pos hkind, if_pos (by omega)]
  | cons first front ih =>
    by_cases hfirst : first.kind = .error
    · rw [List.filter_cons_of_pos (by simpa using hfirst), List.length_cons] at h
      rw [List.cons_append, beforeError, if_pos hfirst, if_neg (by omega), ih (by omega)]
    · rw [List.filter_cons_of_neg (by simpa using hfirst)] at h
      rw [List.cons_append, beforeError, if_neg hfirst, ih h]

/-! ## Reports and notices -/

/-- Lines with an empty one behind each of them. -/
theorem intercalate_flatMap_render (errors : List Diagnostic) (last : String) :
    "\n".intercalate (errors.flatMap (fun error => [error.render, ""]) ++ [last])
      = String.join (errors.map fun error => error.render ++ "\n\n") ++ last := by
  induction errors with
  | nil =>
    rw [List.flatMap_nil, List.nil_append, String.intercalate_singleton, List.map_nil,
      String.join_nil, String.empty_append]
  | cons error errors ih =>
    have hne : errors.flatMap (fun error => [error.render, ""]) ++ [last] ≠ [] :=
      List.append_ne_nil_of_right_ne_nil _ (List.cons_ne_nil _ _)
    have hbreaks : "\n" ++ ("" ++ "\n") = "\n\n" := by decide
    rw [List.flatMap_cons, List.append_assoc, List.cons_append, List.cons_append, List.nil_append,
      String.intercalate_cons_cons, String.intercalate_cons_of_ne_nil hne, ih, List.map_cons,
      String.join_cons, ← hbreaks]
    simp only [String.append_assoc]

/-- The summary of a collector is a report on what it holds. -/
theorem summary_eq_report (collector : Collector) :
    collector.summary = report collector.toList := by
  rw [Collector.summary, intercalate_flatMap_render, report, Collector.length_toList]

theorem size_eq_zero_iff (collector : Collector) :
    collector.size = 0 ↔ collector.toList = [] := by
  rw [← Collector.length_toList, List.length_eq_zero_iff]

section

variable (strip : String → String)

theorem reportText_eq (collector : Collector) :
    reportText strip collector
      = if collector.toList = [] then "" else strip (report collector.toList) ++ "\n" := by
  simp only [reportText, summary_eq_report, size_eq_zero_iff]

theorem noticeBy_of_ne_internalError {failure : Failure}
    (h : ExitCode.ofFailure failure ≠ .internalError) (verbose : Bool) :
    noticeBy strip verbose failure = strip (announcement failure) ++ "\n" := by
  rw [noticeBy, if_neg fun hcode => h hcode.2, String.append_empty]

theorem noticeBy_lexical (verbose : Bool) (diagnostic : Diagnostic) :
    noticeBy strip verbose (.lexical diagnostic) = strip diagnostic.render ++ "\n" :=
  noticeBy_of_ne_internalError strip (by rintro ⟨⟩) verbose

end

/-- There is nothing to be taken out of the notice of a limit. -/
theorem noticeBy_limitReached {strip : String → String} (hstrip : Text.Strips strip)
    (verbose : Bool) (limit : Nat) :
    noticeBy strip verbose (.limitReached limit)
      = s!"Error: Too many errors ({limit}), stopping\n" := by
  have hdigits : '\x1b' ∉ Nat.toDigits 10 limit := by
    intro hmem
    have hdigit := Nat.isDigit_of_mem_toDigits (by decide) (by decide) hmem
    exact absurd hdigit (by decide)
  have hannounced : announcement (.limitReached limit)
      = "Error: " ++ ("Too many errors (" ++ toString limit ++ "), stopping") := rfl
  have hplain : '\x1b' ∉ (announcement (.limitReached limit)).toList := by
    rw [hannounced]
    simpa using hdigits
  have hfront : "Error: Too many errors (" = "Error: " ++ "Too many errors (" := by decide
  have hback : "), stopping\n" = "), stopping" ++ "\n" := by decide
  rw [noticeBy_of_ne_internalError strip (by rintro ⟨⟩), hstrip.keeps _ hplain, hannounced]
  show _ = "Error: Too many errors (" ++ toString limit ++ "), stopping\n"
  rw [hfront, hback]
  simp only [String.append_assoc]

/-! ## The three ways in which a dump ends -/

/-- What comes of a run over a source, given the errors and the tokens of the source. -/
structure Job.Sums (strip : String → String) (job : Job) (run : Run) (errors : List Diagnostic)
    (tokens : List Token) : Prop where
  exit_eq : (exitCode run).toNat = if errors = [] then 0 else 1
  tokens_eq : run.tokens = job.shown tokens
  told_eq : reportText strip run.collector ++ run.failure.elim "" (noticeBy strip job.verbose)
    = job.told strip errors

section

variable {strip : String → String} {job : Job} {run plain : Run}

/-- A strict dump records nothing, and tells of the error that it has stopped at. -/
theorem Job.Sums.of_strict (hstrict : job.strict = true)
    (h : run.StrictBeside plain { limit := job.limit }) :
    job.Sums strip run plain.collector.toList plain.tokens where
  exit_eq := by
    rw [exitCode, h.failure, h.collector]
    cases plain.collector.toList <;> rfl
  tokens_eq := by
    rw [h.tokens, shown_of_strict hstrict, beforeError_one]
  told_eq := by
    have hreport : reportText strip run.collector = "" := by
      rw [h.collector]
      rfl
    rw [hreport, h.failure, String.empty_append]
    cases plain.collector.toList with
    | nil => rfl
    | cons first errors =>
      rw [told, if_pos hstrict]
      exact noticeBy_lexical strip job.verbose first

/-- A dump that nothing stops tells of everything that has been recorded. -/
theorem Job.Sums.of_whole (hstrict : job.strict = false)
    (hroom : job.limit.filter (· ≤ plain.collector.toList.length) = none)
    (hshown : job.shown plain.tokens = plain.tokens) (htokens : run.tokens = plain.tokens)
    (hfailure : run.failure = none) (hrecorded : run.collector.toList = plain.collector.toList) :
    job.Sums strip run plain.collector.toList plain.tokens where
  exit_eq := by
    rw [exitCode, hfailure, ← hrecorded]
    show (if run.collector.size = 0 then ExitCode.success else .lexicalError).toNat = _
    rw [apply_ite ExitCode.toNat]
    simp only [size_eq_zero_iff]
    rfl
  tokens_eq := htokens.trans hshown.symm
  told_eq := by
    rw [hfailure, reportText_eq, hrecorded]
    cases herrors : plain.collector.toList with
    | nil => rfl
    | cons first errors =>
      rw [herrors] at hroom
      rw [told, hroom, hstrict, if_neg Bool.false_ne_true]
      exact String.append_empty

/-- A dump that its limit stops tells of the errors up to there, and that there are too many. -/
theorem Job.Sums.of_reached (hstrip : Text.Strips strip) {limit : Nat}
    (hstrict : job.strict = false) (hlimit : job.limit = some limit) (hpos : 0 < limit)
    (hle : limit ≤ plain.collector.toList.length) (h : run.LimitedBeside plain limit) :
    job.Sums strip run plain.collector.toList plain.tokens := by
  rw [Collector.length_toList] at hle
  obtain ⟨hfailure, token, back, htokens, hkind, hcount⟩ := h.reached hle
  have hne : plain.collector.toList ≠ [] := by
    rw [← List.length_pos_iff, Collector.length_toList]
    omega
  have htaken : plain.collector.toList.take limit ≠ [] := by
    rw [← List.length_pos_iff, List.length_take, Collector.length_toList]
    omega
  refine ⟨?_, ?_, ?_⟩
  · rw [exitCode, hfailure, if_neg hne]
    rfl
  · rw [Job.shown_of_limit hstrict hlimit, htokens, beforeError_append hkind hcount]
  · rw [hfailure, reportText_eq, h.recorded, if_neg htaken]
    cases herrors : plain.collector.toList with
    | nil => exact absurd herrors hne
    | cons first errors =>
      have hreached : job.limit.filter (· ≤ (first :: errors).length) = some limit := by
        rw [← herrors, Collector.length_toList, hlimit]
        simpa using hle
      rw [Job.told, hreached, hstrict, if_neg Bool.false_ne_true]
      show _ ++ noticeBy strip job.verbose (.limitReached limit) = _
      rw [noticeBy_limitReached hstrip]

/-- A dump with a limit is stopped by it if there are as many errors, and otherwise by nothing. -/
theorem Job.Sums.of_limited (hstrip : Text.Strips strip) {limit : Nat}
    (hstrict : job.strict = false) (hlimit : job.limit = some limit) (hpos : 0 < limit)
    (hcount : (plain.tokens.filter (·.kind = .error)).length = plain.collector.toList.length)
    (h : run.LimitedBeside plain limit) :
    job.Sums strip run plain.collector.toList plain.tokens := by
  by_cases hle : limit ≤ plain.collector.toList.length
  · exact .of_reached hstrip hstrict hlimit hpos hle h
  · have hroom : job.limit.filter (· ≤ plain.collector.toList.length) = none := by
      rw [hlimit]
      simpa using hle
    have hfew := Nat.lt_of_not_le hle
    obtain ⟨htokens, hfailure⟩ := h.whole (by rwa [← Collector.length_toList])
    refine .of_whole hstrict hroom ?_ htokens hfailure ?_
    · rw [Job.shown_of_limit hstrict hlimit, beforeError_of_lt (hcount.trans_lt hfew)]
    · rw [h.recorded, List.take_of_length_le (Nat.le_of_lt hfew)]

end

/-! ## Whole dumps -/

/-- Among the tokens of a run that nothing stops there are as many errors as it records. -/
theorem length_errors_run (filename : String) (keepComments : Bool) (text : List Char) :
    ((Lexer.run filename keepComments text).tokens.filter (·.kind = .error)).length
      = (Lexer.run filename keepComments text).collector.toList.length := by
  have hlabels := @Scan.map_label_diagnostics
    ((Cursor.ofText text).scans filename (always keepComments))
    fun _ => Cursor.coherent_of_mem_scans
  rw [(Lexer.run_yields filename keepComments text).tokens, Lexer.toList_collector_run]
  simpa using (congrArg List.length hlabels).symm

/-- Comments are no errors. -/
theorem errors_run (filename : String) (keepComments : Bool) (text : List Char) :
    (Lexer.run filename keepComments text).collector.toList
      = (Lexer.run filename false text).collector.toList := by
  rw [Lexer.toList_collector_run, Lexer.toList_collector_run, Cursor.filterMap_diagnostic_scans]

/-- However a dump ends, it is summed up by the errors and the tokens of its source. -/
theorem Job.sums_run {strip : String → String} (hstrip : Text.Strips strip) (job : Job)
    (hlimit : ∀ limit, job.limit = some limit → 0 < limit) (text : List Char) :
    job.Sums strip (job.run text)
      (Lexer.run job.source.filename job.keepComments text).collector.toList
      (Lexer.run job.source.filename job.keepComments text).tokens := by
  have hyields := Lexer.run_yields job.source.filename job.keepComments text
  have hcount := length_errors_run job.source.filename job.keepComments text
  cases hstrict : job.strict with
  | true =>
    have hbeside := @Lexer.drain_strict (Lexer.fresh job.options text) _ rfl hstrict hyields
      { limit := job.limit }
    exact .of_strict hstrict ⟨hbeside.tokens, hbeside.failure, hbeside.collector⟩
  | false =>
    cases hmost : job.limit with
    | none =>
      have hrun : job.run text = { Lexer.run job.source.filename job.keepComments text with
          lexer := (Lexer.run job.source.filename job.keepComments text).lexer.leave } := by
        rw [run, options, hstrict, hmost]
        rfl
      rw [hrun]
      refine .of_whole hstrict ?_ (shown_of_no_limit hstrict hmost _) rfl hyields.failure rfl
      rw [hmost, Option.filter_none]
    | some limit =>
      have hpos := hlimit limit hmost
      have hbeside := @Lexer.drain_limited (Lexer.fresh job.options text) _ rfl hstrict hyields
        limit hpos
      refine .of_limited hstrip hstrict hmost hpos hcount ?_
      rw [run, hmost]
      exact ⟨hbeside.recorded, hbeside.whole, hbeside.reached⟩

/-! ## Limits that are accepted -/

/-- A limit that is accepted lets at least one error pass. -/
theorem Arguments.pos_of_limit? {arguments : Arguments} {limit : Nat}
    (h : arguments.limit? = .ok (some limit)) : 0 < limit := by
  unfold limit? at h
  split at h
  · cases h
  · split at h
    · cases h
    · next given found _ =>
      split_ifs at h with hsmall
      obtain rfl : found.toNat = limit := Option.some.inj (Except.ok.inj h)
      omega

/-- The limit of a job is the one that its arguments set. -/
theorem Arguments.limit?_of_request {arguments : Arguments} {look : String → Option FileTree.Node}
    {job : Job} (h : arguments.request look = .ok (.dump job)) :
    arguments.limit? = .ok job.limit := by
  unfold request at h
  split at h
  · cases h
  · cases h
  · cases hlimit : arguments.limit? with
    | error fault =>
      rw [hlimit] at h
      cases h
    | ok limit =>
      rw [hlimit] at h
      cases hwords : arguments.words with
      | nil =>
        rw [hwords] at h
        cases h
      | cons word rest =>
        rw [hwords] at h
        cases hsource : source look word with
        | error fault =>
          simp only [hsource] at h
          cases h
        | ok found =>
          simp only [hsource] at h
          cases rest with
          | nil =>
            cases h
            rfl
          | cons second rest => cases h

/-- So it is with the limit of every job that a command line asks for. -/
theorem limit_pos_of_plan {strip : String → String} {look : String → Option FileTree.Node}
    {words : List String} {job : Job} (h : plan strip look words = .inr job) {limit : Nat}
    (hlimit : job.limit = some limit) : 0 < limit := by
  unfold plan at h
  split at h
  · cases h
  · cases h
  · cases h
  · next found hfound =>
    obtain rfl := Sum.inr.inj h
    cases hwords : Arguments.ofList words with
    | error fault =>
      rw [hwords] at hfound
      cases hfound
    | ok arguments =>
      rw [hwords] at hfound
      have hset := Arguments.limit?_of_request hfound
      rw [hlimit] at hset
      exact Arguments.pos_of_limit? hset

/-! ## The program -/

theorem ExitCode.toNat_injective : Function.Injective ExitCode.toNat := by
  intro first second h
  cases first <;> cases second <;> first | rfl | cases h

/-- **No option changes the exit code.**  Command lines that ask for the same source come to the
same one. -/
theorem exit_perform_eq {look look' : String → Option FileTree.Node} {words words' : List String}
    {job job' : Job} (hplan : plan Text.plain look words = .inr job)
    (hplan' : plan Text.plain look' words' = .inr job') (hsource : job.source = job'.source)
    (standardInput : List UInt8) :
    (perform look standardInput words).exit = (perform look' standardInput words').exit := by
  rw [perform, performBy, hplan, perform, performBy, hplan']
  show (job.perform Text.plain standardInput).exit = (job'.perform Text.plain standardInput).exit
  rw [Job.perform, Job.perform, hsource]
  cases Text.Utf8.decode (job'.source.bytes standardInput) with
  | error fault => rfl
  | ok text =>
    have hsums := job.sums_run Text.strips_plain (fun _ => limit_pos_of_plan hplan)
      (Text.unifyNewlines text)
    have hsums' := job'.sums_run Text.strips_plain (fun _ => limit_pos_of_plan hplan')
      (Text.unifyNewlines text)
    have hexit := hsums.exit_eq
    have hexit' := hsums'.exit_eq
    rw [errors_run] at hexit hexit'
    rw [hsource] at hexit
    exact ExitCode.toNat_injective (hexit.trans hexit'.symm)

/-- **What a dump leaves behind.**  Every command line that asks for a job comes to what the job
comes to.  The exit code says whether a run over the source without any options records an error.
The output shows the tokens of the source, with its comments if they are wanted, in front of the
error that stops the dump.  Behind the log, which is empty unless it is wanted, the error text tells
of the errors of the source, without control sequences. -/
theorem Job.perform_sums {strip : String → String} (hstrip : Text.Strips strip) (job : Job)
    (hlimit : ∀ limit, job.limit = some limit → 0 < limit)
    {standardInput : List UInt8} {decoded : List Char}
    (hdecoded : Text.Utf8.decode (job.source.bytes standardInput) = .ok decoded) :
    let source := String.ofList (Text.unifyNewlines decoded)
    let filename := job.source.filename
    let outcome := job.perform strip standardInput
    (∀ look words, plan strip look words = .inr job →
        performBy strip look standardInput words = outcome)
      ∧ ∃ plain whole log, Lexer.tokenize (.text source) { filename } none = .ok plain
        ∧ Lexer.tokenize (.text source) { filename, keepComments := job.keepComments } none
            = .ok whole
        ∧ (job.verbose = false → log = [])
        ∧ outcome.exit.toNat = (if plain.collector.toList = [] then 0 else 1)
        ∧ outcome.output
            = String.join ((job.shown whole.tokens).map fun token => token.dumpLine ++ "\n")
        ∧ outcome.errors
            = String.join (log.map Event.line) ++ job.told strip plain.collector.toList := by
  intro source filename outcome
  have hsums := job.sums_run hstrip hlimit (Text.unifyNewlines decoded)
  rw [errors_run] at hsums
  have houtcome : outcome = job.outcome strip (Text.unifyNewlines decoded) := by
    show job.perform strip standardInput = _
    rw [Job.perform, hdecoded]
  have hplain := Lexer.tokenize_eq_ok_run filename false source
  have hwhole := Lexer.tokenize_eq_ok_run filename job.keepComments source
  rw [String.toList_ofList] at hplain hwhole
  refine ⟨?_, _, _, if job.verbose then events filename (Text.unifyNewlines decoded).length
    (job.run (Text.unifyNewlines decoded)) else [], hplain, hwhole, ?_, ?_, ?_, ?_⟩
  · intro look words hplan
    rw [performBy, hplan]
  · intro hquiet
    rw [hquiet, if_neg Bool.false_ne_true]
  · rw [houtcome]
    exact hsums.exit_eq
  · rw [houtcome]
    show String.join ((job.run (Text.unifyNewlines decoded)).tokens.map _) = _
    rw [hsums.tokens_eq]
    rfl
  · rw [houtcome, ← hsums.told_eq, ← String.append_assoc, apply_ite (List.map Event.line)]
    rfl

/-- A dump with comments that is stopped by the first of several errors, in a line with a control
sequence. -/
theorem Job.perform_sums_first_error :
    let outcome := CommandLine.perform (fun _ => none) "/**/\r\n@\x1b[1m#".toUTF8.toList
      ["--comments", "--max-errors", "1", "-"]
    outcome.exit.toNat = 1
      ∧ outcome.output = "1:1     COMMENT         /**/\n"
      ∧ outcome.errors = "<stdin>:2:1: error: invalid character '@' (0x40)\n    @#\n    ^\n\n"
          ++ "1 error\nError: Too many errors (1), stopping\n" := by
  intro outcome
  obtain ⟨hperform, plain, whole, log, hplain, hwhole, hquiet, hexit, houtput, herrors⟩ :=
    @Job.perform_sums Text.plain Text.strips_plain ⟨.standardInput, false, true, some 1, false⟩
      (by rintro _ ⟨⟩; decide) "/**/\r\n@\x1b[1m#".toUTF8.toList "/**/\r\n@\x1b[1m#".toList
      (by decide +kernel)
  have houtcome : outcome = _ := hperform _ _ (by decide +kernel)
  obtain rfl : log = [] := hquiet rfl
  rw [Lexer.tokenize_eq_ok_run] at hplain hwhole
  cases hplain
  cases hwhole
  rw [houtcome]
  exact ⟨hexit.trans (by decide +kernel), houtput.trans (by decide +kernel),
    herrors.trans (by decide +kernel)⟩

/-- An error is not always shown as it is rendered, for its source line can hold a control
sequence. -/
theorem perform_strict_controlSequence :
    ∃ plain first, Lexer.tokenize (.text "\x1b[m") { filename := "<stdin>" } none = .ok plain
      ∧ plain.collector.toList = [first]
      ∧ plan Text.plain (fun _ => none) ["--strict", "-"]
          = .inr ⟨.standardInput, true, false, none, false⟩
      ∧ (perform (fun _ => none) "\x1b[m".toUTF8.toList ["--strict", "-"]).errors
          ≠ first.render ++ "\n" := by
  refine ⟨_, ⟨.invalidCharacter '\x1b', some ⟨"<stdin>", 1, 1⟩, some "\x1b[m"⟩,
    Lexer.tokenize_eq_ok_run "<stdin>" false "\x1b[m", ?_, ?_, ?_⟩
  all_goals decide +kernel

end CommandLine
end SourceLexer
