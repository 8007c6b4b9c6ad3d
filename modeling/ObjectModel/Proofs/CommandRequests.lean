import Mathlib.Data.List.Forall2
import ObjectModel.CommandLine

/-!
# What a command line asks for

An argument denotes an option if it is at least three characters of the beginning of the long name
of the option. The demonstration is asked for if every argument denotes an option, and with which
options is a question of which are denoted at all, not of how often, in what order or in what
spelling. Anything else among the arguments makes the reading end with the help text or with an
error. To ask for the help text behind options only wins over all that follows, but for what begins
like several options; and words are reported all together.
-/

namespace ObjectModel.CommandLine

/-- The argument denotes an option of the demonstration. -/
def Denotes (s : String) (f : Flag) : Prop :=
  f ≠ .help ∧ 3 ≤ s.length ∧ ∃ e ∈ Flag.long, e.2 = f ∧ s.toList <+: e.1.toList

instance (s : String) (f : Flag) : Decidable (Denotes s f) :=
  inferInstanceAs (Decidable (_ ∧ _ ∧ _))

/-- Some argument denotes the option. -/
def Given (argv : List String) (f : Flag) : Prop := ∃ s ∈ argv, Denotes s f

instance (argv : List String) (f : Flag) : Decidable (Given argv f) :=
  inferInstanceAs (Decidable (∃ s ∈ argv, Denotes s f))

/-- The argument asks for the help text. -/
def AsksHelp (s : String) : Prop := s = "-h" ∨ 3 ≤ s.length ∧ s.toList <+: "--help".toList

/-- The argument does not look like an option. -/
def IsWord (s : String) : Prop := s.toList.head? ≠ some '-'

instance (s : String) : Decidable (IsWord s) := inferInstanceAs (Decidable (_ ≠ _))

/-- The argument begins like several options. Two dashes alone are something else. -/
def Unclear (s : String) : Prop := "--=".toList <+: s.toList

/-- The options that the arguments denote. -/
def optionsOf (argv : List String) : Options :=
  ⟨decide (Given argv .noWarnings), decide (Given argv .allowWriting),
    decide (Given argv .verbose)⟩

section Arguments

variable {s : String} {f : Flag}

private theorem readArgument_take : ∀ e ∈ Flag.long, ∀ n ≤ e.1.length, 3 ≤ n →
    readArgument (String.ofList (e.1.toList.take n)) = .flag e.2 none := by
  decide

theorem readArgument_of_starts {e : String × Flag} (listed : e ∈ Flag.long) (long : 3 ≤ s.length)
    (starts : s.toList <+: e.1.toList) : readArgument s = .flag e.2 none := by
  have text : s = String.ofList (e.1.toList.take s.length) := by
    rw [← String.length_toList, ← List.prefix_iff_eq_take.mp starts, String.ofList_toList]
  have bound : s.length ≤ e.1.length := by
    simpa only [String.length_toList] using starts.length_le
  rw [text]
  exact readArgument_take e listed _ bound long

theorem Denotes.readArgument (denotes : Denotes s f) : readArgument s = .flag f none := by
  obtain ⟨-, long, e, listed, rfl, starts⟩ := denotes
  exact readArgument_of_starts listed long starts

theorem AsksHelp.readArgument (asks : AsksHelp s) : readArgument s = .flag .help none := by
  obtain rfl | ⟨long, starts⟩ := asks
  · rfl
  · have listed : ("--help", Flag.help) ∈ Flag.long := by decide
    exact readArgument_of_starts listed long starts

theorem IsWord.ne_cons (word : IsWord s) (cs : List Char) : s.toList ≠ '-' :: cs := fun dash =>
  word (by rw [dash]; rfl)

theorem IsWord.readArgument (word : IsWord s) : readArgument s = .unknown s := by
  have unnamed : flagNamed? s.toList = none := by
    have dashes : ∀ e ∈ Flag.long, e.1.toList.head? = some '-' := by decide
    rw [flagNamed?, if_neg (word.ne_cons _), Option.map_eq_none_iff, List.find?_eq_none]
    intro e listed same
    exact word (of_decide_eq_true same ▸ dashes e listed)
  rw [CommandLine.readArgument, unnamed]
  dsimp only
  split
  · exact absurd ‹_› (word.ne_cons _)
  · exact absurd ‹_› (word.ne_cons _)
  · exact absurd ‹_› (word.ne_cons _)
  · rfl

theorem denotes_of_flagNamed? (named : flagNamed? s.toList = some f) (notHelp : f ≠ .help) :
    Denotes s f := by
  rw [flagNamed?] at named
  split at named
  · cases named
    exact absurd rfl notHelp
  · obtain ⟨e, found, same⟩ := Option.map_eq_some_iff.mp named
    cases same
    have listed := List.mem_of_find?_eq_some found
    have text : e.1.toList = s.toList := by simpa using List.find?_some found
    have long : ∀ e ∈ Flag.long, 3 ≤ e.1.toList.length := by decide
    refine ⟨notHelp, ?_, e, listed, rfl, text ▸ List.prefix_rfl⟩
    rw [← String.length_toList, ← text]
    exact long e listed

theorem eq_of_splitValue {cs name : List Char} (split : splitValue cs = (name, none)) :
    name = cs := by
  rw [splitValue] at split
  split at split <;> cases split
  rfl

theorem denotes_of_readLong {rest : List Char} (dashes : s.toList = '-' :: '-' :: rest)
    (read : readLong s = .flag f none) (notHelp : f ≠ .help) : Denotes s f := by
  rw [readLong] at read
  split at read
  rename_i name value parts
  cases value with
  | some value =>
    split at read
    · cases read
    · split at read <;> cases read
  | none =>
    obtain rfl := eq_of_splitValue parts
    split at read
    · rename_i named
      cases read
      exact denotes_of_flagNamed? named notHelp
    · split at read
      · cases read
      · rename_i e matched
        cases read
        have there : e ∈ matching s.toList := by rw [matched]; exact List.mem_singleton_self e
        obtain ⟨listed, starts⟩ := List.mem_filter.mp there
        refine ⟨notHelp, ?_, e, listed, rfl, List.isPrefixOf_iff_prefix.mp starts⟩
        -- two dashes alone are the beginning of every option
        have more : rest ≠ [] := by
          rintro rfl
          rw [dashes] at matched
          cases congrArg List.length matched
        have := List.length_pos_iff.mpr more
        rw [← String.length_toList, dashes, List.length_cons, List.length_cons]
        omega
      · cases read

/-- Whatever is read as an option of the demonstration denotes it. -/
theorem denotes_of_readArgument (read : readArgument s = .flag f none) (notHelp : f ≠ .help) :
    Denotes s f := by
  rw [readArgument] at read
  split at read
  · rename_i named
    cases read
    exact denotes_of_flagNamed? named notHelp
  · split at read
    · exact denotes_of_readLong ‹_› read notHelp
    · cases read
    · cases read
    · cases read

/-- The long options differ in the first letter of their names. -/
theorem length_matching_le (c : Char) (cs : List Char) :
    (matching ('-' :: '-' :: c :: cs)).length ≤ 1 := by
  have apart : Flag.long.Pairwise (fun e e' => e.1.toList[2]? ≠ e'.1.toList[2]?) := by decide
  have third : ∀ e ∈ matching ('-' :: '-' :: c :: cs), e.1.toList[2]? = some c := by
    intro e there
    obtain ⟨rest, whole⟩ := List.isPrefixOf_iff_prefix.mp (List.mem_filter.mp there).2
    rw [← whole]
    rfl
  have different : (matching ('-' :: '-' :: c :: cs)).Pairwise _ :=
    apart.sublist List.filter_sublist
  match matched : matching ('-' :: '-' :: c :: cs) with
  | [] | [_] => simp
  | e :: e' :: es =>
    rw [matched] at third different
    have same := (third e List.mem_cons_self).trans (third e' (by simp)).symm
    exact absurd same (List.rel_of_pairwise_cons different List.mem_cons_self)

theorem splitValue_dashes {rest name : List Char} {value : Option (List Char)}
    (split : splitValue ('-' :: '-' :: rest) = (name, value)) :
    ∃ cs, name = '-' :: '-' :: cs ∧ (cs = [] → rest = [] ∨ ∃ value, rest = '=' :: value) := by
  have noEquals (cs : List Char) : ('-' :: '-' :: cs).dropWhile (fun c => c != '=') =
      cs.dropWhile (fun c => c != '=') := rfl
  rw [splitValue, noEquals] at split
  split at split
  · cases split
    exact ⟨rest, rfl, .inl⟩
  · rename_i dropped
    cases split
    refine ⟨rest.takeWhile (fun c => c != '='), rfl, fun empty => .inr ?_⟩
    cases rest with
    | nil => cases dropped
    | cons c cs =>
      have isEquals : c = '=' := by simpa [List.takeWhile_cons] using empty
      exact ⟨cs, by rw [isEquals]⟩

/-- Only two dashes with no letter behind them are the beginning of several options. -/
theorem unclear_of_readArgument {t : String} {es : List String}
    (read : readArgument s = .ambiguous t es) : s = "--" ∨ Unclear s := by
  rw [readArgument] at read
  split at read
  · cases read
  · split at read
    · rename_i rest dashes
      rw [readLong, dashes] at read
      split at read
      rename_i name value parts
      obtain ⟨cs, rfl, empty⟩ := splitValue_dashes parts
      have noLetters : cs = [] := by
        cases cs with
        | nil => rfl
        | cons c cs =>
          have few := length_matching_le c cs
          split at read
          · cases read
          · split at read
            · cases read
            · cases read
            · rename_i none one
              rcases Nat.le_one_iff_eq_zero_or_eq_one.mp few with no | single
              · exact absurd (List.length_eq_zero_iff.mp no) none
              · obtain ⟨e, only⟩ := List.length_eq_one_iff.mp single
                exact absurd only (one e)
      rcases empty noLetters with rfl | ⟨value, rfl⟩
      · exact .inl (String.toList_injective dashes)
      · exact .inr ⟨value, dashes.symm⟩
    all_goals cases read

theorem not_denotes_dashes : ¬ Denotes "--" f := fun denotes => absurd denotes.2.1 (by decide)

theorem Denotes.not_isWord (denotes : Denotes s f) : ¬ IsWord s := fun word => by
  have read := denotes.readArgument
  rw [word.readArgument] at read
  cases read

theorem Denotes.unique {g : Flag} (denotes : Denotes s f) (denotes' : Denotes s g) : f = g := by
  have same := denotes.readArgument.symm.trans denotes'.readArgument
  injection same

end Arguments

section Reading

variable {d : Dialect} {o o' : Options} {unknown : List String}

theorem ignoredValue_ne_run (f : Flag) (value : String) : ignoredValue f value ≠ .run o' := by
  simp [ignoredValue]

theorem readLetters_ne_run (tail : List Char) : readLetters d tail ≠ .run o' := by
  fun_induction readLetters d tail with
  | case1 | case6 => simp
  | case3 d tail _ ih => exact ih
  | case2 | case4 | case5 => exact ignoredValue_ne_run _ _

theorem shortTail_ne_run (hasEquals : Bool) (tail : List Char) :
    shortTail d hasEquals tail ≠ .run o' := by
  fun_cases shortTail d hasEquals tail with
  | case1 | case2 => exact ignoredValue_ne_run _ _
  | case3 => exact readLetters_ne_run _

/-- An argument that was not understood stays in the way of the demonstration. -/
theorem follow_ne_run (there : unknown ≠ []) (args : List Argument) :
    follow d o unknown args ≠ .run o' := by
  fun_induction follow d o unknown args with
  | case1 o unknown empty => exact absurd (List.isEmpty_iff.mp empty) there
  | case2 => simp
  | case3 o unknown s rest ih | case4 o unknown s _ rest ih => exact ih (by simp)
  | case5 => exact shortTail_ne_run _ _
  | case6 => exact ignoredValue_ne_run _ _
  | case7 => simp
  | case8 o unknown f rest _ ih => exact ih there

theorem readArguments_cons {s : String} (notDashes : s ≠ "--") (argv : List String) :
    readArguments (s :: argv) = readArgument s :: readArguments argv := by
  rw [readArguments, if_neg notDashes]

theorem readArguments_of_denotes {s : String} {f : Flag} (denotes : Denotes s f)
    (argv : List String) :
    readArguments (s :: argv) = .flag f none :: readArguments argv := by
  have notDashes : s ≠ "--" := fun dashes => not_denotes_dashes (dashes ▸ denotes)
  rw [readArguments_cons notDashes, denotes.readArgument]

/-- An argument that denotes an option sets it, and the reading goes on. -/
theorem follow_of_denotes {s : String} {f : Flag} (denotes : Denotes s f) (argv : List String)
    (o : Options) (unknown : List String) :
    follow d o unknown (readArguments (s :: argv)) =
      follow d (o.set f) unknown (readArguments argv) := by
  rw [readArguments_of_denotes denotes, follow]
  exact denotes.1

/-- An argument that denotes none keeps the demonstration from being run. -/
theorem follow_ne_run_of_not_denotes {s : String} (other : ∀ f, ¬ Denotes s f)
    (argv : List String) (o : Options) : follow d o [] (readArguments (s :: argv)) ≠ .run o' := by
  have stays (t : String) (args : List Argument) : follow d o [t] args ≠ .run o' :=
    follow_ne_run (List.cons_ne_nil t []) args
  rw [readArguments]
  split
  · exact stays s _
  · cases read : readArgument s with
    | unknown t => exact stays t _
    | ambiguous t es => exact stays t _
    | letters hasEquals tail => exact shortTail_ne_run hasEquals tail
    | flag f value =>
      cases value with
      | some value => exact ignoredValue_ne_run f value
      | none =>
        have isHelp : f = .help :=
          not_not.mp (fun notHelp => other f (denotes_of_readArgument read notHelp))
        simp [isHelp, follow]

/-- The reading goes through to the end if every argument denotes an option, and only then. -/
theorem follow_readArguments_eq_run (argv : List String) (o : Options) :
    follow d o [] (readArguments argv) = .run o' ↔
      ∃ fs, List.Forall₂ Denotes argv fs ∧ o' = fs.foldl Options.set o := by
  induction argv generalizing o with
  | nil => simp [readArguments, follow, eq_comm]
  | cons s argv ih =>
    by_cases denoted : ∃ f, Denotes s f
    · obtain ⟨f, denotes⟩ := denoted
      rw [follow_of_denotes denotes, ih]
      constructor
      · rintro ⟨fs, all, asked⟩
        exact ⟨f :: fs, .cons denotes all, asked⟩
      · rintro ⟨_, all, asked⟩
        cases all with
        | cons denotes' all =>
          obtain rfl := denotes.unique denotes'
          exact ⟨_, all, asked⟩
    · refine iff_of_false (follow_ne_run_of_not_denotes (not_exists.mp denoted) argv o) ?_
      rintro ⟨_, all, -⟩
      cases all with
      | cons denotes _ => exact denoted ⟨_, denotes⟩

/-- Which options come of denoted ones is a question of which are among them. -/
theorem foldl_set (fs : List Flag) (o : Options) :
    fs.foldl Options.set o =
      ⟨o.noWarnings || decide (.noWarnings ∈ fs), o.allowWriting || decide (.allowWriting ∈ fs),
        o.verbose || decide (.verbose ∈ fs)⟩ := by
  induction fs generalizing o with
  | nil => simp
  | cons f fs ih =>
    rw [List.foldl_cons, ih]
    cases f <;> simp [Options.set]

theorem given_iff_mem {argv : List String} {fs : List Flag}
    (all : List.Forall₂ Denotes argv fs) (f : Flag) : Given argv f ↔ f ∈ fs := by
  induction all with
  | nil => simp [Given]
  | @cons s g argv fs denotes _ ih =>
    have here : Denotes s f ↔ f = g :=
      ⟨fun denotes' => denotes'.unique denotes, fun same => same ▸ denotes⟩
    rw [List.mem_cons, ← ih, ← here]
    simp [Given]

theorem optionsOf_eq {argv : List String} {fs : List Flag} (all : List.Forall₂ Denotes argv fs) :
    fs.foldl Options.set .none = optionsOf argv := by
  simp [foldl_set, optionsOf, Options.none, given_iff_mem all]

theorem readArguments_of_forall₂ {argv : List String} {fs : List Flag}
    (all : List.Forall₂ Denotes argv fs) :
    readArguments argv = fs.map (fun f => .flag f none) := by
  induction all with
  | nil => rfl
  | cons denotes _ ih => rw [readArguments_of_denotes denotes, ih, List.map_cons]

theorem exists_forall₂_denotes {argv : List String} :
    (∃ fs, List.Forall₂ Denotes argv fs) ↔ ∀ s ∈ argv, ∃ f, Denotes s f := by
  induction argv with
  | nil => simp
  | cons s argv ih =>
    rw [List.forall_mem_cons, ← ih]
    constructor
    · rintro ⟨fs, all⟩
      cases all with
      | cons denotes all => exact ⟨⟨_, denotes⟩, _, all⟩
    · rintro ⟨⟨f, denotes⟩, fs, all⟩
      exact ⟨f :: fs, .cons denotes all⟩

/-- Without an argument that begins like several options, all are followed. -/
theorem request_eq_follow {argv : List String}
    (clear : ∀ a ∈ readArguments argv, ∀ t es, a ≠ .ambiguous t es) :
    request d argv = follow d .none [] (readArguments argv) := by
  rw [request]
  split
  · rename_i text found
    obtain ⟨a, there, said⟩ := List.exists_of_findSome?_eq_some found
    cases a with
    | ambiguous t es => exact absurd rfl (clear _ there t es)
    | _ => cases said
  · rfl

/-- The demonstration is asked for exactly if each argument denotes an option, and then with the
options that are denoted. -/
theorem request_eq_run_iff {argv : List String} :
    request d argv = .run o ↔ (∀ s ∈ argv, ∃ f, Denotes s f) ∧ o = optionsOf argv := by
  have followed : request d argv = .run o ↔
      ∃ fs, List.Forall₂ Denotes argv fs ∧ o = fs.foldl Options.set .none := by
    rw [← follow_readArguments_eq_run]
    constructor
    · intro asked
      rw [request] at asked
      split at asked
      · cases asked
      · exact asked
    · intro asked
      obtain ⟨fs, all, -⟩ := (follow_readArguments_eq_run argv _).mp asked
      rw [request_eq_follow, asked]
      rw [readArguments_of_forall₂ all]
      rintro a there t es rfl
      obtain ⟨f, -, same⟩ := List.mem_map.mp there
      cases same
  rw [followed, ← exists_forall₂_denotes]
  constructor
  · rintro ⟨fs, all, rfl⟩
    exact ⟨⟨fs, all⟩, optionsOf_eq all⟩
  · rintro ⟨⟨fs, all⟩, rfl⟩
    exact ⟨fs, all, (optionsOf_eq all).symm⟩

end Reading

section Stopping

variable {d : Dialect} {argv opts rest : List String} {s : String}

theorem clear_readArguments
    (clear : ∀ t ∈ argv, (∃ f, Denotes t f) ∨ AsksHelp t ∨ IsWord t ∨ ¬ Unclear t) :
    ∀ a ∈ readArguments argv, ∀ t es, a ≠ .ambiguous t es := by
  induction argv with
  | nil => exact fun _ there => nomatch there
  | cons s argv ih =>
    obtain ⟨first, later⟩ := List.forall_mem_cons.mp clear
    rw [readArguments]
    split
    · rintro a there t es rfl
      simp at there
    · rename_i notDashes
      refine List.forall_mem_cons.mpr ⟨fun t es read => ?_, ih later⟩
      rcases first with ⟨f, denotes⟩ | asks | word | notUnclear
      · cases denotes.readArgument.symm.trans read
      · cases asks.readArgument.symm.trans read
      · cases word.readArgument.symm.trans read
      · exact (unclear_of_readArgument read).elim notDashes notUnclear

theorem follow_of_asksHelp (denoted : ∀ t ∈ opts, ∃ f, Denotes t f) (asks : AsksHelp s)
    (o : Options) : follow d o [] (readArguments (opts ++ s :: rest)) = .help := by
  induction opts generalizing o with
  | nil =>
    have notDashes : s ≠ "--" := by
      rintro rfl
      exact absurd asks.readArgument (by decide)
    rw [List.nil_append, readArguments_cons notDashes, asks.readArgument, follow]
  | cons t opts ih =>
    obtain ⟨⟨f, denotes⟩, later⟩ := List.forall_mem_cons.mp denoted
    rw [List.cons_append, follow_of_denotes denotes]
    exact ih later _

/-- Behind options only, the help text is what is asked for. -/
theorem request_of_asksHelp (denoted : ∀ t ∈ opts, ∃ f, Denotes t f) (asks : AsksHelp s)
    (clear : ∀ t ∈ rest, ¬ Unclear t) : request d (opts ++ s :: rest) = .help := by
  rw [request_eq_follow, follow_of_asksHelp denoted asks]
  refine clear_readArguments (List.forall_mem_append.mpr ⟨fun t there => .inl (denoted t there),
    List.forall_mem_cons.mpr ⟨.inr (.inl asks), fun t there => ?_⟩⟩)
  exact .inr (.inr (.inr (clear t there)))

theorem follow_of_words (all : ∀ t ∈ argv, (∃ f, Denotes t f) ∨ IsWord t) (o : Options)
    {unknown : List String} (some : unknown ++ argv.filter IsWord ≠ []) :
    follow d o unknown (readArguments argv) = .usageError
      ("unrecognized arguments: " ++ " ".intercalate (unknown ++ argv.filter IsWord)) := by
  induction argv generalizing o unknown with
  | nil =>
    rw [List.filter_nil, List.append_nil] at some ⊢
    rw [readArguments, follow, if_neg (by simpa using some)]
  | cons s argv ih =>
    obtain ⟨first, later⟩ := List.forall_mem_cons.mp all
    rcases first with ⟨f, denotes⟩ | word
    · rw [List.filter_cons_of_neg (by simpa using denotes.not_isWord)] at some ⊢
      rw [follow_of_denotes denotes, ih later _ some]
    · have notDashes : s ≠ "--" := by
        rintro rfl
        exact word rfl
      have step : follow d o unknown (.unknown s :: readArguments argv) =
          follow d o (unknown ++ [s]) (readArguments argv) := rfl
      rw [readArguments_cons notDashes, word.readArgument, step, ih later o (by simp),
        List.filter_cons_of_pos (by simpa using word), List.append_assoc]
      rfl

/-- Words among options are unrecognized, and reported in the order in which they stand. -/
theorem request_of_words (all : ∀ t ∈ argv, (∃ f, Denotes t f) ∨ IsWord t)
    (word : ∃ s ∈ argv, IsWord s) :
    request d argv =
      .usageError ("unrecognized arguments: " ++ " ".intercalate (argv.filter IsWord)) := by
  have clear : ∀ a ∈ readArguments argv, ∀ t es, a ≠ .ambiguous t es :=
    clear_readArguments (fun t there => (all t there).imp_right (fun word => .inr (.inl word)))
  obtain ⟨s, there, isWord⟩ := word
  have some : argv.filter IsWord ≠ [] :=
    List.ne_nil_of_mem (List.mem_filter.mpr ⟨there, by simpa using isWord⟩)
  rw [request_eq_follow clear, follow_of_words all _ some]
  rfl

end Stopping

end ObjectModel.CommandLine
