import ObjectModel.Proofs.CommandRequests
import ObjectModel.Proofs.MethodCalls

/-!
# What a command line comes to

The reading of the arguments ends with the help text or with an error, and then nothing has been
done; or the demonstration is run, under the settings that the arguments denote. Which options are
denoted is all that the run gets to know of the arguments, and the settings of before are nothing
to it. A fault of the object model that ends the demonstration is reported by its message and by
the code of the exit. Greeters that are handed in are evaluated before anything is shown, and what
the built-in ones print and log is known to the letter.
-/

namespace ObjectModel.CommandLine

open Script

variable {d : Dialect} {m : Machine} {o : Options} {w u : World Workspace}

/-- The world in which the demonstration begins. -/
def begun (o : Options) (w : World Workspace) : World Workspace :=
  { w with settings := ⟨!o.noWarnings, o.allowWriting⟩, log := #[], out := "" }

/-- What the demonstration comes to, and the world that it leaves. -/
noncomputable def demoRun (m : Machine) (o : Options) (w : World Workspace) :
    Except Fault Unit × World Workspace :=
  (m.runDemo (return o.allowWriting)).run (begun o w)

/-- The demonstration ends in a fault of the object model, and this is its message. To make the
message leaves the world `u`. -/
def Complains (m : Machine) (o : Options) (w : World Workspace) (message : String)
    (u : World Workspace) : Prop :=
  ∃ f v text, demoRun m o w = (.error f, v) ∧ f.isCatchable = true ∧
    f.kind.isA .modelError = true ∧ (m.faultMessage? f).run v = (.ok text, u) ∧
    message = text.getD ""

/-- How a run of the demonstration is reported. -/
inductive Reports (m : Machine) (o : Options) (w : World Workspace) :
    Outcome × World Workspace → Prop where
  | finished {u : World Workspace} (done : demoRun m o w = (.ok (), u)) :
    Reports m o w (⟨.int 0, u.out, loggedText o u, u.settings⟩, u)
  | complains {message : String} {u : World Workspace} (complains : Complains m o w message u) :
    Reports m o w
      (⟨.int 1, u.out, loggedText o u ++ "Error: " ++ message ++ "\n", u.settings⟩, u)
  | broken {f : Fault} {v u : World Workspace} (fields : List (String × Form))
    (fails : demoRun m o w = (.error f, v)) (silent : ∀ message u, ¬ Complains m o w message u) :
    Reports m o w (⟨.record fields, u.out, loggedText o u, u.settings⟩, u)

theorem Reports.code_eq_one_iff {r : Outcome × World Workspace} (reports : Reports m o w r) :
    r.1.code = .int 1 ↔ ∃ message u, Complains m o w message u := by
  cases reports with
  | finished done =>
    refine iff_of_false (by simp) ?_
    rintro ⟨message, u, f, v, text, fails, -⟩
    simp [done] at fails
  | complains complains => exact iff_of_true rfl ⟨_, _, complains⟩
  | broken fields fails silent =>
    refine iff_of_false (by simp) ?_
    rintro ⟨message, u, complains⟩
    exact silent message u complains

theorem run_demo (m : Machine) (o : Options) (w : World Workspace) :
    (demo m o).run { w with log := #[], out := "" } = demoRun m o w := by
  have warnings : (ask (.setWarnings (!o.noWarnings)) : Prog Unit).run
      { w with log := #[], out := "" } = _ := Session.run_ask _ _
  have writing : (ask (.setAllowWriting o.allowWriting) : Prog Unit).run
      { w with log := #[], out := "", settings := { w.settings with warnings := !o.noWarnings } } =
        (.ok (), begun o w) := Session.run_ask _ _
  rw [demo, Session.run_bind_of_ok warnings, Session.run_bind_of_ok writing]
  rfl

/-- A fault is always written down as a record. -/
theorem run_renderFault (m : Machine) (f : Fault) (w : World Workspace) :
    ∃ fields u, (m.renderFault f).run w = (.ok (.record fields), u) := by
  cases told : (m.faultMessage? f).run w with
  | mk r u =>
    cases r with
    | error g =>
      rw [Machine.renderFault, Session.run_tryCatch_of_error (Session.run_bind_of_error told)]
      exact ⟨_, u, Session.run_pure _ _⟩
    | ok text =>
      simp only [Machine.renderFault, Session.run_tryCatch, Session.run_bind_of_ok told,
        Session.run_pure]
      exact ⟨_, u, rfl⟩

/-- What comes of reporting how the demonstration ended. -/
theorem run_ending (m : Machine) (o : Options) (w : World Workspace) :
    (∃ u, demoRun m o w = (.ok (), u) ∧ runSession (ending m (demo m o)) w = (.ok .null, u)) ∨
    (∃ message u, Complains m o w message u ∧
      runSession (ending m (demo m o)) w = (.ok (.text message), u)) ∨
    ∃ f v fields u, demoRun m o w = (.error f, v) ∧ (∀ message u, ¬ Complains m o w message u) ∧
      runSession (ending m (demo m o)) w = (.ok (.record fields), u) := by
  rw [runSession, Session.run_toProgram, ending]
  have demonstrated := run_demo m o w
  cases ended : demoRun m o w with
  | mk r v =>
    rw [ended] at demonstrated
    cases r with
    | ok _ =>
      refine .inl ⟨v, rfl, Session.run_tryCatch_of_ok ?_⟩
      rw [Session.run_bind_of_ok demonstrated, Session.run_pure]
    | error f =>
      rw [Session.run_tryCatch_of_error (Session.run_bind_of_error demonstrated)]
      -- a message is asked for only if the fault is one of the object model
      split
      · rename_i own
        rw [Bool.and_eq_true] at own
        cases told : (m.faultMessage? f).run v with
        | mk r u =>
          cases r with
          | ok text =>
            refine .inr (.inl ⟨_, u, ⟨f, v, text, ended, own.1, own.2, told, rfl⟩, ?_⟩)
            refine Session.run_tryCatch_of_ok ?_
            rw [Session.run_bind_of_ok told, Session.run_pure]
          | error g =>
            obtain ⟨fields, u', written⟩ := run_renderFault m g u
            refine .inr (.inr ⟨f, v, fields, u', rfl, ?_, ?_⟩)
            · rintro message u' ⟨f', v', text, ended', -, -, told', -⟩
              cases ended.symm.trans ended'
              cases told.symm.trans told'
            · rw [Session.run_tryCatch_of_error (Session.run_bind_of_error told), written]
      · rename_i foreign
        obtain ⟨fields, u', written⟩ := run_renderFault m f v
        refine .inr (.inr ⟨f, v, fields, u', rfl, ?_, written⟩)
        rintro message u' ⟨f', v', text, ended', catchable, own, -⟩
        cases ended.symm.trans ended'
        exact foreign (by rw [catchable, own]; rfl)

theorem reports_executeIn {argv : List String} (asked : request d argv = .run o) (m : Machine)
    (w : World Workspace) : Reports m o w (executeIn d m w argv) := by
  rcases run_ending m o w with ⟨u, done, ended⟩ | ⟨message, u, complains, ended⟩ |
    ⟨f, v, fields, u, fails, silent, ended⟩
  · simp only [executeIn, asked, ended]
    exact .finished done
  · simp only [executeIn, asked, ended]
    exact .complains complains
  · simp only [executeIn, asked, ended]
    exact .broken fields fails silent

/-- The demonstration begins by setting both switches, whatever they were, and how much of the log
is to be shown is nothing to it. -/
theorem runSession_demo (m : Machine) (o : Options) (verbose : Bool) (w : World Workspace)
    (s : Settings) :
    runSession (ending m (demo m o)) { w with settings := s } =
      runSession (ending m (demo m { o with verbose })) w := rfl

section Faults

/-- What a fault has to say by itself: its message, if it was made already, the text that a program
raised it with, or that of the thing that it has become. -/
inductive Tells (c : Workspace) : Fault → String → Prop
  | told (kind : ErrorKind) (message : String) : Tells c (.told kind message) message
  | raised (kind : ErrorKind) (message : String) : Tells c (.raised kind (.text message)) message
  | held {r : Ref .exception} {message : String} (isTold : (c.exceptions.get r).isTold = true)
      (plain : (c.exceptions.get r).details.find? "msg" = none)
      (made : c.tuples.get (c.exceptions.get r).args = #[.text message]) :
      Tells c (.held (c.exceptions.get r).kind r) message

variable {c : Workspace} {f : Fault} {message : String}

theorem Tells.isCatchable (tells : Tells c f message) : f.isCatchable = true := by
  cases tells <;> rfl

/-- Only the texts of missing keys are put in quotes. -/
theorem run_payloadText_of_isA {kind : ErrorKind} (own : kind.isA .modelError = true)
    (message : String) (n : Nat) (w : World Workspace) :
    ((Machine.ofDepth (n + 1)).payloadText kind (.text message)).run w = (.ok message, w) := by
  have noKey : kind ≠ .keyError := by
    rintro rfl
    exact absurd own (by decide)
  rw [Machine.payloadText, if_neg noKey]
  exact Session.run_pure _ _

theorem run_faultMessage?_of_tells (tells : Tells w.client f message)
    (own : f.kind.isA .modelError = true) (n : Nat) :
    ((Machine.ofDepth (n + 1)).faultMessage? f).run w = (.ok (some message), w) := by
  cases tells with
  | told kind message => exact Session.run_pure _ _
  | raised kind message =>
    have shown : ((Machine.ofDepth (n + 1)).payloadText kind (.text message)).run w =
        (.ok message, w) :=
      run_payloadText_of_isA own message n w
    exact (Session.run_bind_of_ok shown).trans (Session.run_pure _ _)
  | @held r message isTold plain made =>
    have shown : ((Machine.ofDepth (n + 1)).exceptionText r).run w = (.ok message, w) := by
      refine (Session.run_bind_of_ok (run_viewing w _)).trans ?_
      rw [plain]
      refine (Session.run_bind_of_ok (run_viewing w _)).trans ?_
      rw [made]
      exact run_payloadText_of_isA own message n w
    refine (Session.run_bind_of_ok (run_viewing w _)).trans ?_
    rw [if_pos isTold]
    exact (Session.run_bind_of_ok shown).trans (Session.run_pure _ _)

theorem complains_of_tells (fails : demoRun scriptMachine o w = (.error f, u))
    (own : f.kind.isA .modelError = true) (tells : Tells u.client f message) :
    Complains scriptMachine o w message u :=
  ⟨f, u, some message, fails, tells.isCatchable, own, run_faultMessage?_of_tells tells own _, rfl⟩

/-- A demonstration has one complaint. -/
theorem Reports.eq_of_complains {r : Outcome × World Workspace} (reports : Reports m o w r)
    (complains : Complains m o w message u) :
    r = (⟨.int 1, u.out, loggedText o u ++ "Error: " ++ message ++ "\n", u.settings⟩, u) := by
  cases reports with
  | finished done =>
    obtain ⟨f, v, text, fails, -⟩ := complains
    simp [done] at fails
  | complains complains' =>
    obtain ⟨f, v, text, fails, -, -, told, rfl⟩ := complains
    obtain ⟨f', v', text', fails', -, -, told', rfl⟩ := complains'
    cases fails.symm.trans fails'
    cases told.symm.trans told'
    rfl
  | broken fields fails silent => exact absurd complains (silent message u)

end Faults

section Greeters

/-- The greeters that are handed in, evaluated when the demonstration begins. All that they know is
a new catalog. -/
noncomputable def handedIn (m : Machine) (e : Expr) (o : Options) (w : World Workspace) :
    Except Fault Value × World Workspace :=
  let v := { begun o w with heap := w.heap.newCatalog.2 }
  (m.eval w.client.frames.next e).run
    (withFrame v ⟨.ofList [("catalog", .catalog w.heap.newCatalog.1)], none⟩)

/-- The demonstration shows what the greeters that are handed in come to. -/
theorem demoRun_eq_bind {e : Expr} (handed : w.client.greeters = some e) (m : Machine)
    (o : Options) :
    ∃ s : Prog Value, s.run (begun o w) = handedIn m e o w ∧
      demoRun m o w =
        (s >>= fun v => m.showGreeters v (return o.allowWriting)).run (begun o w) := by
  let v := { begun o w with heap := w.heap.newCatalog.2 }
  have catalog : (ask .newCatalog : Prog (Ref .catalog)).run (begun o w) =
      (.ok w.heap.newCatalog.1, v) := Session.run_ask _ _
  have asked : (viewing (fun c => c.greeters) : Prog (Option Expr)).run v = (.ok (some e), v) := by
    rw [run_viewing]
    exact congrArg (fun g => (Except.ok g, v)) handed
  refine ⟨ask .newCatalog >>= fun k => m.defineForDemo (.catalog k), ?_, ?_⟩
  · rw [Session.run_bind_of_ok catalog]
    exact (Session.run_bind_of_ok asked).trans (Session.run_bind_of_ok (run_newFrame _ v))
  · rfl

theorem demoRun_of_handedIn_error {e : Expr} {f : Fault} (handed : w.client.greeters = some e)
    (fails : handedIn m e o w = (.error f, u)) : demoRun m o w = (.error f, u) := by
  obtain ⟨s, run, demonstrated⟩ := demoRun_eq_bind handed m o
  rw [demonstrated, Session.run_bind_of_error (run.trans fails)]

theorem demoRun_of_handedIn_ok {e : Expr} {v : Value} (handed : w.client.greeters = some e)
    (comes : handedIn m e o w = (.ok v, u)) :
    demoRun m o w = (m.showGreeters v (return o.allowWriting)).run u := by
  obtain ⟨s, run, demonstrated⟩ := demoRun_eq_bind handed m o
  rw [demonstrated, Session.run_bind_of_ok (run.trans comes)]

/-- The world of a process that has done nothing yet but to change its settings. -/
def freshWorld (s : Settings) : World Workspace :=
  { World.initial Workspace.initial with settings := s }

/-- What the built-in greeters print. -/
def greetersText (o : Options) : String :=
  "Hello World\n" ++
  "Hi! My name is Slim Shady\n" ++
  "Hello World\n" ++
  "Override hello\n" ++
  "Hi! My name is Jimmy\n" ++
  "Persons created: 2\n" ++
  if o.allowWriting then "External key from outside: Slim\n" else ""

/-- What the built-in greeters leave on the error output. -/
def greetersLog (o : Options) : String :=
  (if o.verbose then
    "DEBUG pypie.model.catalog: Committed ClassDefinition(Greeter, static=[], " ++
      "private=['private_hello'], public=['say_hello'], operators=[])\n" ++
    "DEBUG pypie.model.catalog: Committed ClassDefinition(Person extends Greeter, " ++
      "static=['count'], private=['private_intro'], " ++
      "public=['constructor', 'introduce', 'say_hello'], operators=[])\n" ++
    "DEBUG pypie.runtime.factory: Instantiated Greeter\n" ++
    "DEBUG pypie.runtime.factory: Instantiated Person\n" ++
    "DEBUG pypie.runtime.factory: Instantiated Person\n"
  else "") ++
  if o.allowWriting && !o.noWarnings then
    "WARNING pypie.config: Setting keys for classes from outside is not intended. " ++
      "Objects will not be able to use new keys.\n"
  else ""

/-- What the command leaves behind with the built-in greeters. -/
def greetersOutcome (o : Options) : Outcome :=
  ⟨.int 0, greetersText o, greetersLog o, ⟨!o.noWarnings, o.allowWriting⟩⟩

/-- The run of the built-in greeters in a new process, compared with what it is said to leave. How
much of the log is shown is decided afterwards. -/
def showsGreeters (m : Machine) (noWarnings allowWriting : Bool) : Bool :=
  let o (verbose : Bool) : Options := ⟨noWarnings, allowWriting, verbose⟩
  match runSession (ending m (demo m (o false))) (World.initial .initial) with
  | (.ok .null, u) =>
    decide (u.out = greetersText (o false) ∧ u.settings = ⟨!noWarnings, allowWriting⟩ ∧
      ∀ verbose, loggedText (o verbose) u = greetersLog (o verbose))
  | _ => false

theorem showsGreeters_scriptMachine :
    ∀ noWarnings allowWriting, showsGreeters scriptMachine noWarnings allowWriting = true := by
  decide +kernel

theorem executeIn_freshWorld {argv : List String} (asked : request d argv = .run o) (s : Settings) :
    (executeIn d scriptMachine (freshWorld s) argv).1 = greetersOutcome o := by
  have shows := showsGreeters_scriptMachine o.noWarnings o.allowWriting
  rw [showsGreeters] at shows
  split at shows
  · rename_i u run
    obtain ⟨printed, settings, logged⟩ := of_decide_eq_true shows
    rw [← runSession_demo scriptMachine o false _ s] at run
    simp only [executeIn, asked, freshWorld, run, printed, settings]
    exact congrArg (Outcome.mk _ _ · _) (logged o.verbose)
  · cases shows

end Greeters

/-- The help text was shown, and nothing was done. -/
def helped (w : World Workspace) : Outcome × World Workspace :=
  (⟨.int 0, helpText, "", w.settings⟩, w)

/-- An error in the use of the command was shown, and nothing was done. -/
def misused (text : String) (w : World Workspace) : Outcome × World Workspace :=
  (⟨.int 2, "", usage ++ "pypie: error: " ++ text ++ "\n", w.settings⟩, w)

/-- The reading of the arguments ends with the help text or with an error. -/
structure Stops (d : Dialect) (argv : List String) : Prop where
  outcome : (∀ m w, executeIn d m w argv = helped w) ∨
    ∃ text, ∀ m w, executeIn d m w argv = misused text w
  /-- The first argument that is no option asks for the help text, and none behind it begins like
  several options. -/
  help : ∀ opts s rest, argv = opts ++ s :: rest → (∀ t ∈ opts, ∃ f, Denotes t f) → AsksHelp s →
    (∀ t ∈ rest, ¬ Unclear t) → ∀ m w, executeIn d m w argv = helped w
  /-- What is no option does not look like one either. -/
  words : (∀ t ∈ argv, (∃ f, Denotes t f) ∨ IsWord t) → ∀ m w, executeIn d m w argv =
    misused ("unrecognized arguments: " ++ " ".intercalate (argv.filter IsWord)) w

/-- The demonstration is run with these options, whatever the settings were before. -/
structure Demonstrates (d : Dialect) (argv : List String) (o : Options) : Prop where
  reports : ∀ m w, Reports m o w (executeIn d m w argv)
  /-- The code of the exit is 1 exactly if a fault of the object model ends the demonstration. -/
  code_eq_one_iff : ∀ m w,
    (executeIn d m w argv).1.code = .int 1 ↔ ∃ message u, Complains m o w message u
  /-- What such a fault has to say is the last that is written. -/
  tells : ∀ w f u message, demoRun scriptMachine o w = (.error f, u) →
    f.kind.isA .modelError = true → Tells u.client f message →
    executeIn d scriptMachine w argv =
      (⟨.int 1, u.out, loggedText o u ++ "Error: " ++ message ++ "\n", u.settings⟩, u)
  /-- Greeters that are handed in are evaluated first, and shown if they come to something. -/
  handedIn : ∀ m w e, w.client.greeters = some e →
    (∀ f u, handedIn m e o w = (.error f, u) → demoRun m o w = (.error f, u)) ∧
      ∀ v u, handedIn m e o w = (.ok v, u) →
        demoRun m o w = (m.showGreeters v (return o.allowWriting)).run u
  /-- All is the same for other arguments that denote the same options. -/
  alike : ∀ m w s argv', (∀ t ∈ argv', ∃ f, Denotes t f) → (∀ f, Given argv' f ↔ Given argv f) →
    executeIn d m { w with settings := s } argv' = executeIn d m w argv
  builtIn : ∀ s, (executeIn d scriptMachine (freshWorld s) argv).1 = greetersOutcome o

theorem executeIn_of_help {argv : List String} (asked : request d argv = .help) (m : Machine)
    (w : World Workspace) : executeIn d m w argv = helped w := by
  rw [executeIn, asked]
  rfl

theorem executeIn_of_usageError {argv : List String} {text : String}
    (asked : request d argv = .usageError text) (m : Machine) (w : World Workspace) :
    executeIn d m w argv = misused text w := by
  rw [executeIn, asked]
  rfl

theorem stops {argv : List String} (other : ¬ ∀ s ∈ argv, ∃ f, Denotes s f) : Stops d argv where
  outcome := by
    cases asked : request d argv with
    | run o => exact absurd (request_eq_run_iff.mp asked).1 other
    | help => exact .inl (executeIn_of_help asked)
    | usageError text => exact .inr ⟨text, executeIn_of_usageError asked⟩
  help := by
    rintro opts s rest rfl denoted asks clear
    exact executeIn_of_help (request_of_asksHelp denoted asks clear)
  words all := by
    refine executeIn_of_usageError (request_of_words all ?_)
    by_contra none
    exact other (fun s there => (all s there).resolve_right (fun word => none ⟨s, there, word⟩))

theorem demonstrates {argv : List String} (asked : request d argv = .run o) :
    Demonstrates d argv o where
  reports m w := reports_executeIn asked m w
  code_eq_one_iff m w := (reports_executeIn asked m w).code_eq_one_iff
  tells w f u message fails own tells :=
    (reports_executeIn asked scriptMachine w).eq_of_complains (complains_of_tells fails own tells)
  handedIn m w e handed :=
    ⟨fun f u => demoRun_of_handedIn_error handed, fun v u => demoRun_of_handedIn_ok handed⟩
  alike m w s argv' all' same := by
    obtain ⟨-, rfl⟩ := request_eq_run_iff.mp asked
    have options : optionsOf argv' = optionsOf argv := by
      simp only [optionsOf, same]
    have asked' := request_eq_run_iff (d := d).mpr ⟨all', options.symm⟩
    have alike := runSession_demo m (optionsOf argv) (optionsOf argv).verbose
    simp only [executeIn, asked, asked', alike]
  builtIn s := executeIn_freshWorld asked s

/-- What comes of a command line is decided by its arguments. Either one of them denotes no option;
then the help text or an error is shown, and nothing has been done. Or all denote options; then the
demonstration is run under the settings denoted, whatever they were before. A fault of the object
model that ends it is told on the error output, with 1 as the code of the exit, and the outcome is
the same for all arguments that denote the same options. -/
theorem commandLine_outcomes (d : Dialect) (argv : List String) :
    ((∃ s ∈ argv, ∀ f, ¬ Denotes s f) ∧ Stops d argv) ∨
    ((∀ s ∈ argv, ∃ f, Denotes s f) ∧ Demonstrates d argv (optionsOf argv)) := by
  by_cases all : ∀ s ∈ argv, ∃ f, Denotes s f
  · exact .inr ⟨all, demonstrates (request_eq_run_iff.mpr ⟨all, rfl⟩)⟩
  · exact .inl ⟨by simpa using all, stops all⟩

/-- Greeters that come to nothing but a fault of the object model. -/
def noGreeters : Expr := .raise .definitionError (.text "nobody is here")

/-- The fault gives the code of the exit and the last line, under the settings that were denoted. -/
theorem commandLine_outcomes_noGreeters :
    (executeIn .lenient scriptMachine (.initial { Workspace.initial with greeters := noGreeters })
      ["--no-w", "--ver", "--no"]).1 =
        ⟨.int 1, "", "Error: nobody is here\n", ⟨false, false⟩⟩ := by
  let argv := ["--no-w", "--ver", "--no"]
  let w : World Workspace := .initial { Workspace.initial with greeters := noGreeters }
  have options : optionsOf argv = ⟨true, false, true⟩ := by decide
  have all : ∀ s ∈ argv, ∃ f, Denotes s f := by
    simp only [argv, List.forall_mem_cons]
    exact ⟨⟨.noWarnings, by decide⟩, ⟨.verbose, by decide⟩, ⟨.noWarnings, by decide⟩, nofun⟩
  obtain ⟨⟨s, there, other⟩, -⟩ | ⟨-, demonstrates⟩ := commandLine_outcomes .lenient argv
  · obtain ⟨f, denotes⟩ := all s there
    exact absurd denotes (other f)
  · have fails : handedIn scriptMachine noGreeters (optionsOf argv) w =
        (.error (.raised .definitionError (.text "nobody is here")), _) :=
      (Session.run_bind_of_ok (Machine.yields_text _)).trans (Session.run_throw _ _)
    have ended := (demonstrates.handedIn scriptMachine w noGreeters rfl).1 _ _ fails
    rw [demonstrates.tells w _ _ _ ended (by decide) (.raised _ _), options]
    rfl

end ObjectModel.CommandLine
