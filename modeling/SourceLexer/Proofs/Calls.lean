import SourceLexer.Proofs.Run

/-!
# Call after call

A caller who is told of a failure may call again, and the lexer goes on behind the text that it
failed on.  `callAt` is a call in such an endless row of calls: each of them is made whatever the
ones before it have come to, and before each the options are set anew.

A run is the beginning of a row, up to the first call that fails or that comes to the end of the
input (`drainWith_isFront`).
-/

namespace SourceLexer

/-- Whether a report fails or not, the diagnostic is held. -/
theorem Collector.snd_report (collector : Collector) (diagnostic : Diagnostic) :
    (collector.report diagnostic).2 = collector.push diagnostic := by
  cases hreached : (collector.push diagnostic).reached? with
  | none => rw [report, hreached]
  | some limit => rw [report, hreached]

namespace Lexer

/-- The lexer and its collector as a call in a row of calls finds them. -/
def stateBefore (configure : Nat → Options) (lexer : Lexer) (collector : Collector) :
    Nat → Lexer × Collector
  | 0 => ({ lexer with options := configure 0 }, collector)
  | call + 1 =>
    let state := stateBefore configure lexer collector call
    let step := state.1.next state.2
    ({ step.lexer with options := configure (call + 1) }, step.collector)

/-- What a call in a row of calls comes to. -/
def callAt (configure : Nat → Options) (lexer : Lexer) (collector : Collector) (call : Nat) :
    Step Token :=
  let state := stateBefore configure lexer collector call
  state.1.next state.2

variable {configure : Nat → Options} {lexer : Lexer} {collector : Collector}

theorem stateBefore_succ (call : Nat) :
    stateBefore configure lexer collector (call + 1) =
      ({ (callAt configure lexer collector call).lexer with options := configure (call + 1) },
        (callAt configure lexer collector call).collector) := rfl

@[simp] theorem options_stateBefore (call : Nat) :
    (stateBefore configure lexer collector call).1.options = configure call := by
  cases call <;> rfl

/-- A row of calls goes on as the row that begins with its second call. -/
theorem stateBefore_succ_eq (call : Nat) :
    stateBefore configure lexer collector (call + 1) =
      stateBefore (fun call => configure (call + 1)) (callAt configure lexer collector 0).lexer
        (callAt configure lexer collector 0).collector call := by
  induction call with
  | zero => rfl
  | succ call ih =>
    rw [stateBefore, ih]
    rfl

theorem callAt_succ (call : Nat) :
    callAt configure lexer collector (call + 1) =
      callAt (fun call => configure (call + 1)) (callAt configure lexer collector 0).lexer
        (callAt configure lexer collector 0).collector call := by
  rw [callAt, stateBefore_succ_eq]
  rfl

/-! ## Settling a scan -/

section

variable {scan : Scan} {diagnostic : Diagnostic}

/-- A scan without a diagnostic passes, whatever is done about diagnostics. -/
theorem settle_of_none (h : scan.diagnostic = none) (strict : Bool) (collector : Collector) :
    settle strict scan collector = (.ok scan.token, collector) := by
  rw [settle, h]

theorem settle_strict_of_some (h : scan.diagnostic = some diagnostic) (collector : Collector) :
    settle true scan collector = (.error (.lexical diagnostic), collector) := by
  rw [settle, h]
  rfl

theorem settle_lenient_of_some (h : scan.diagnostic = some diagnostic) (collector : Collector) :
    settle false scan collector =
      ((collector.report diagnostic).1.map fun () => scan.token,
        (collector.report diagnostic).2) := by
  rw [settle, h]
  rfl

end

/-! ## What stays -/

theorem closed_next (lexer : Lexer) (collector : Collector) :
    (lexer.next collector).lexer.closed = lexer.closed := by
  cases hclosed : lexer.closed with
  | true => rw [next_of_closed hclosed, hclosed]
  | false => rw [next_of_open hclosed, hclosed]

/-- A call does not close the lexer. -/
theorem closed_stateBefore (hopen : lexer.closed = false) (call : Nat) :
    (stateBefore configure lexer collector call).1.closed = false := by
  induction call with
  | zero => exact hopen
  | succ call ih =>
    rw [stateBefore_succ]
    exact (closed_next _ _).trans ih

/-- A settled scan leaves the collector as it was or with one more diagnostic. -/
theorem collector_settle (strict : Bool) (scan : Scan) (collector : Collector) :
    (settle strict scan collector).2 =
      if strict = true then collector
      else scan.diagnostic.toList.foldl Collector.push collector := by
  cases hdiagnostic : scan.diagnostic with
  | none =>
    rw [settle_of_none hdiagnostic]
    exact (ite_self _).symm
  | some diagnostic =>
    cases strict with
    | true =>
      rw [settle_strict_of_some hdiagnostic]
      rfl
    | false =>
      rw [settle_lenient_of_some hdiagnostic]
      exact Collector.snd_report collector diagnostic

theorem limit_settle (strict : Bool) (scan : Scan) (collector : Collector) :
    (settle strict scan collector).2.limit = collector.limit := by
  rw [collector_settle]
  split
  · rfl
  · rw [Collector.limit_foldl_push]

theorem limit_next (lexer : Lexer) (collector : Collector) :
    (lexer.next collector).collector.limit = collector.limit := by
  cases hclosed : lexer.closed with
  | true => rw [next_of_closed hclosed]
  | false => rw [next_of_open hclosed, limit_settle]

/-- A call leaves the limit of the collector as it is. -/
theorem limit_stateBefore (call : Nat) :
    (stateBefore configure lexer collector call).2.limit = collector.limit := by
  induction call with
  | zero => rfl
  | succ call ih =>
    rw [stateBefore_succ]
    exact (limit_next _ _).trans ih

/-- In a row of calls on an open lexer every call scans, and the cursor moves as the scan does. -/
theorem cursor_callAt (hopen : lexer.closed = false) (call : Nat) :
    (callAt configure lexer collector call).lexer.cursor =
      ((stateBefore configure lexer collector call).1.cursor.scan (configure call)).cursor := by
  rw [callAt, next_of_open (closed_stateBefore hopen call), options_stateBefore]

/-- What the call comes to is a matter of settling the scan. -/
theorem settle_callAt (hopen : lexer.closed = false) (call : Nat) :
    ((callAt configure lexer collector call).outcome,
        (callAt configure lexer collector call).collector) =
      settle (configure call).strict
        ((stateBefore configure lexer collector call).1.cursor.scan (configure call))
        (stateBefore configure lexer collector call).2 := by
  rw [callAt, next_of_open (closed_stateBefore hopen call), options_stateBefore]

/-! ## Runs are made of calls -/

/-- A run that is the beginning of a row of calls, up to the first one that fails or that comes to
the end of the input. -/
structure Run.IsFront (run : Run) (row : Nat → Step Token) : Prop where
  token : ∀ call token, run.tokens[call]? = some token → (row call).outcome = .ok token
  last : ∀ call token, run.tokens[call]? = some token → token.kind = .endOfInput →
    run.tokens.length = call + 1 ∧ run.failure = none
  failure : ∀ failure, run.failure = some failure →
    (row run.tokens.length).outcome = .error failure
  finished : run.failure = none →
    ∃ (call : Nat) (final : Token), run.tokens[call]? = some final ∧ final.kind = .endOfInput

/-- The run that begins with one more call. -/
theorem Run.IsFront.cons {run : Run} {row : Nat → Step Token} {token : Token}
    (h : run.IsFront fun call => row (call + 1)) (htoken : (row 0).outcome = .ok token)
    (hkind : token.kind ≠ .endOfInput) : (run.cons token).IsFront row where
  token call found hfound := by
    cases call with
    | zero =>
      obtain rfl : token = found := Option.some.inj hfound
      exact htoken
    | succ call => exact h.token call found hfound
  last call found hfound hend := by
    cases call with
    | zero =>
      obtain rfl : token = found := Option.some.inj hfound
      exact absurd hend hkind
    | succ call =>
      obtain ⟨hlength, hfailure⟩ := h.last call found hfound hend
      exact ⟨congrArg (· + 1) hlength, hfailure⟩
  failure := h.failure
  finished hfailure := by
    obtain ⟨call, final, hfinal, hend⟩ := h.finished hfailure
    exact ⟨call + 1, final, hfinal, hend⟩

theorem drainWith_isFront (configure : Nat → Options) (lexer : Lexer) (collector : Collector) :
    (drainWith configure lexer collector).IsFront (callAt configure lexer collector) := by
  induction hlength : lexer.cursor.live.length using Nat.strong_induction_on
    generalizing configure lexer collector with
  | _ length ih =>
    subst hlength
    rw [drainWith]
    split
    · next failure hfailure =>
      refine ⟨by simp, by simp, ?_, by simp⟩
      intro found hfound
      obtain rfl : failure = found := Option.some.inj hfound
      exact hfailure
    · next token htoken =>
      split
      · next hend =>
        refine ⟨?_, ?_, by simp, fun _ => ⟨0, token, rfl, hend⟩⟩
        · intro call found hfound
          obtain ⟨rfl, rfl⟩ : call = 0 ∧ token = found := by
            cases call with
            | zero => exact ⟨rfl, Option.some.inj hfound⟩
            | succ call => simp at hfound
          exact htoken
        · intro call found hfound _
          cases call with
          | zero => exact ⟨rfl, rfl⟩
          | succ call => simp at hfound
      · next hmore =>
        have hshort := live_length_lt_of_next htoken hmore
        have hrest := ih _ hshort (fun call => configure (call + 1)) _
          (Lexer.next { lexer with options := configure 0 } collector).collector rfl
        refine Run.IsFront.cons ?_ htoken hmore
        have hrow : (fun call => callAt configure lexer collector (call + 1)) = _ :=
          funext fun call => callAt_succ call
        rw [hrow]
        exact hrest

end Lexer
end SourceLexer
