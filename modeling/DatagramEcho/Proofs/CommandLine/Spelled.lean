import DatagramEcho.CommandLine.Arguments
import DatagramEcho.Proofs.Configuration
import Mathlib.Data.List.Basic
import Mathlib.Tactic.SplitIfs

/-!
# What the words of a command line spell

The reader of a command line goes from word to word with a value pending. What an option is given
can also be read off the words alone, without a reader: the word after `--name`, and the rest of
`--name=value`. On every command line that is accepted the two agree, for the options that no letter
stands for.

* `spelled`: the values of an option that words spell by its long name.
* `Reading.total`: what a reading and the words ahead of it amount to. A word that is taken does not
  change it.
* `Takes`: how one word is taken. By `cases_of_readWords_cons` this is all that happens to a word,
  apart from `--` and the name of a command.
* `spelled_of_readWords` and `texts_of_readOptions`: the words of one command, read to the end or up
  to the name of another one.
-/

namespace DatagramEcho.CommandLine

/-! ## Spelling -/

/-- The value of an option that one word spells, as in `--name=value`. -/
def attached? (name word : String) : Option String :=
  (word.toList.dropPrefix? ("--" ++ name ++ "=").toList).map String.ofList

/-- What a word spells for an option, with the words after it at hand. -/
def spelledBy (name word : String) (words : List String) : List String :=
  if word = "--" ++ name then words.take 1 else (attached? name word).toList

/-- The values of an option that words spell by its long name, in order: the word after `--name`,
and what follows the sign in `--name=value`. -/
def spelled (name : String) : List String → List String
  | [] => []
  | word :: words => spelledBy name word words ++ spelled name words

variable {name word : String} {words : List String} {long : List Char}

/-- Characters are cut at the first sign in one way only. -/
theorem cut_eq_iff {front rest : List Char} (hfront : '=' ∉ front)
    (hrest : ∀ char ∈ rest.head?, char = '=') :
    long.takeWhile (· ≠ '=') = front ∧ long.dropWhile (· ≠ '=') = rest ↔ long = front ++ rest := by
  constructor
  · rintro ⟨rfl, rfl⟩
    rw [List.takeWhile_append_dropWhile]
  · rintro rfl
    have hall : ∀ char ∈ front, decide (char ≠ '=') = true :=
      fun char hchar => decide_eq_true (ne_of_mem_of_not_mem hchar hfront)
    rw [List.takeWhile_append_of_pos hall, List.dropWhile_append_of_pos hall]
    -- the rest starts with a sign, if there is a rest
    cases rest with
    | nil => simp
    | cons char rest => simp [hrest char rfl]

/-- A word is the long name of an option if it has that name and no sign. -/
theorem eq_dashes_append_iff (hsign : '=' ∉ name.toList)
    (hword : word.toList = '-' :: '-' :: long) :
    word = "--" ++ name ↔
      long.takeWhile (· ≠ '=') = name.toList ∧ long.dropWhile (· ≠ '=') = [] := by
  rw [cut_eq_iff hsign (by simp), List.append_nil, ← String.toList_inj, hword,
    String.toList_append]
  simp

theorem attached?_eq_some_iff {value : String} :
    attached? name word = some value ↔
      word.toList = '-' :: '-' :: (name.toList ++ '=' :: value.toList) := by
  unfold attached?
  rw [Option.map_eq_some_iff]
  constructor
  -- what is dropped is the name with the sign, up to the equality of characters
  · rintro ⟨rest, hrest, rfl⟩
    obtain ⟨start, happend, hstart⟩ := List.dropPrefix?_eq_some_iff.mp hrest
    rw [happend, beq_iff_eq.mp hstart]
    simp
  · intro hword
    refine ⟨value.toList, List.dropPrefix?_eq_some_iff.mpr ⟨_, ?_, beq_self_eq_true _⟩, by simp⟩
    rw [hword]
    simp

theorem spelledBy_eq_nil_of_forall_ne (hword : ∀ long, word.toList ≠ '-' :: '-' :: long) :
    spelledBy name word words = [] := by
  have hname : word ≠ "--" ++ name := by
    rintro rfl
    exact hword name.toList (by simp)
  have hattached : attached? name word = none :=
    Option.eq_none_iff_forall_ne_some.mpr fun value hvalue =>
      hword _ (attached?_eq_some_iff.mp hvalue)
  rw [spelledBy, if_neg hname, hattached, Option.toList_none]

/-- What a word spells that starts with two dashes, once it is cut at the first sign. -/
theorem spelledBy_of_long (hsign : '=' ∉ name.toList) (hword : word.toList = '-' :: '-' :: long) :
    spelledBy name word words =
      if String.ofList (long.takeWhile (· ≠ '=')) = name then
        match long.dropWhile (· ≠ '=') with
        | [] => words.take 1
        | _ :: value => [String.ofList value]
      else [] := by
  -- first the three conditions, all as conditions on the two parts of the cut
  have hname : String.ofList (long.takeWhile (· ≠ '=')) = name ↔
      long.takeWhile (· ≠ '=') = name.toList := by
    rw [← String.toList_inj, String.toList_ofList]
  have hattached (value : String) : attached? name word = some value ↔
      long.takeWhile (· ≠ '=') = name.toList ∧ long.dropWhile (· ≠ '=') = '=' :: value.toList := by
    rw [attached?_eq_some_iff, hword, cut_eq_iff hsign (by simp)]
    simp
  have halone : word = "--" ++ name ↔
      long.takeWhile (· ≠ '=') = name.toList ∧ long.dropWhile (· ≠ '=') = [] :=
    eq_dashes_append_iff hsign hword
  unfold spelledBy
  by_cases htake : long.takeWhile (· ≠ '=') = name.toList
  · rw [if_pos (hname.mpr htake)]
    cases hrest : long.dropWhile (· ≠ '=') with
    | nil => rw [if_pos (halone.mpr ⟨htake, hrest⟩)]
    | cons sign value =>
      -- the characters were cut at a sign
      have hcut : sign = '=' := by
        have hhead := List.head?_dropWhile_not (· ≠ '=') long
        rw [hrest] at hhead
        simpa using hhead
      subst hcut
      have hvalue : attached? name word = some (String.ofList value) := by
        rw [hattached, String.toList_ofList]
        exact ⟨htake, hrest⟩
      have hword : word ≠ "--" ++ name := by
        rw [Ne, halone, hrest]
        simp
      rw [if_neg hword, hvalue, Option.toList_some]
  -- a word with another name spells nothing, with a sign or without one
  · have hnone : attached? name word = none :=
      Option.eq_none_iff_forall_ne_some.mpr fun value hvalue =>
        htake ((hattached value).mp hvalue).1
    rw [if_neg (htake ∘ hname.mp), if_neg fun hword => htake (halone.mp hword).1, hnone,
      Option.toList_none]

/-! ## Readings -/

/-- What an option that waits for its value, or for the check of it, is given: its value, or the
next word. -/
def Pending.due (pending : Pending) (name : String) (words : List String) : List String :=
  if pending.opt.long = name then (pending.value.toList ++ words).take 1 else []

namespace Reading

/-- What the option that waits in a reading is given, if it is the one asked for. -/
def due (reading : Reading) (name : String) (words : List String) : List String :=
  reading.pending.elim [] fun pending => pending.due name words

/-- What a reading and the words ahead of it amount to: the values that were accepted, the one that
is due, and those that the words spell. -/
def total (reading : Reading) (name : String) (words : List String) : List String :=
  Given.texts reading.given name ++ reading.due name words ++ spelled name words

variable {reading settled taken : Reading} {opt : Opt} {text : String}

/-- Only a reading that waits for a value is given the next word. -/
theorem due_of_awaitsValue_eq_false (hawaits : reading.awaitsValue = false)
    (words words' : List String) : reading.due name words = reading.due name words' := by
  cases hpending : reading.pending with
  | none => simp [due, hpending]
  | some pending =>
    obtain ⟨opt, value?⟩ := pending
    cases value? with
    | none => simp [awaitsValue, hpending] at hawaits
    | some text => simp [due, hpending, Pending.due]

/-- A word that spells nothing, after a reading that waits for no value, adds nothing. -/
theorem total_cons_of_spelledBy_eq_nil (hawaits : reading.awaitsValue = false)
    (hspelled : spelledBy name word words = []) :
    reading.total name (word :: words) =
      Given.texts reading.given name ++ reading.due name [] ++ spelled name words := by
  rw [total, spelled, hspelled, List.nil_append,
    due_of_awaitsValue_eq_false hawaits (word :: words) []]

theorem eq_of_accept_eq_ok (haccept : reading.accept opt text = .ok taken) :
    taken = { reading with given := reading.given ++ [(opt.long, text)] } := by
  unfold accept at haccept
  split at haccept
  -- an option that was given before is refused
  · cases haccept
  · obtain ⟨-, -, haccept⟩ := exists_of_bind_eq_ok haccept
    cases haccept
    rfl

theorem texts_append (given : Given) (long text : String) :
    Given.texts (given ++ [(long, text)]) name =
      Given.texts given name ++ if long = name then [text] else [] := by
  unfold Given.texts
  rw [List.filterMap_append]
  split_ifs with hlong <;> simp [hlong]

/-- A reading that is settled waits for nothing more, and has what was due. -/
theorem settle_spec (name : String) (hsettle : reading.settle = .ok settled) :
    reading.awaitsValue = false ∧ settled.pending = none ∧
      ∀ words, Given.texts settled.given name =
        Given.texts reading.given name ++ reading.due name words := by
  unfold settle at hsettle
  cases hpending : reading.pending with
  | none =>
    rw [hpending] at hsettle
    cases hsettle
    exact ⟨by simp [awaitsValue, hpending], hpending, fun words => by simp [due, hpending]⟩
  | some pending =>
    obtain ⟨opt, value?⟩ := pending
    cases value? with
    -- an option that still waits for its value is refused
    | none => rw [hpending] at hsettle; cases hsettle
    | some text =>
      rw [hpending] at hsettle
      cases eq_of_accept_eq_ok hsettle
      refine ⟨by simp [awaitsValue, hpending], rfl, fun words => ?_⟩
      rw [texts_append]
      simp [due, hpending, Pending.due]

/-- An option with its value in the same word. -/
theorem total_of_attach (hattach : reading.attach opt text = .ok taken)
    (words words' : List String) :
    taken.total name words =
      Given.texts reading.given name ++ reading.due name words' ++
        (if opt.long = name then [text] else []) ++ spelled name words := by
  obtain ⟨settled, hsettle, haccept⟩ := exists_of_bind_eq_ok hattach
  obtain ⟨-, hpending, htexts⟩ := settle_spec name hsettle
  cases eq_of_accept_eq_ok haccept
  rw [total, texts_append, htexts words']
  simp [due, hpending]

/-- An option whose value is the next word. -/
theorem total_of_await (hawait : reading.await opt = .ok taken) (words words' : List String) :
    taken.total name words =
      Given.texts reading.given name ++ reading.due name words' ++
        (if opt.long = name then words.take 1 else []) ++ spelled name words := by
  obtain ⟨settled, hsettle, hawait⟩ := exists_of_bind_eq_ok hawait
  obtain ⟨-, -, htexts⟩ := settle_spec name hsettle
  cases hawait
  rw [total, htexts words']
  simp [due, Pending.due]

theorem refuse_ne_ok (refusal : Refusal) : reading.refuse refusal ≠ .ok taken := by
  intro hrefuse
  obtain ⟨-, -, hthrow⟩ := exists_of_bind_eq_ok hrefuse
  cases hthrow

variable {command : Command} {letter : Char} {rest : List Char}

/-- A word with two dashes that is taken is an option of the command, with its value or without. -/
theorem exists_of_longWord_eq_ok (hlong : longWord command reading long = .ok taken) :
    ∃ opt ∈ command.options, opt.long = String.ofList (long.takeWhile (· ≠ '=')) ∧
      match long.dropWhile (· ≠ '=') with
      | [] => reading.await opt = .ok taken
      | _ :: value => reading.attach opt (String.ofList value) = .ok taken := by
  unfold longWord at hlong
  cases hfind : command.options.find?
      (·.long == String.ofList (long.takeWhile (· ≠ '='))) with
  | some opt =>
    have hopt := List.find?_some hfind
    refine ⟨opt, List.mem_of_find?_eq_some hfind, beq_iff_eq.mp hopt, ?_⟩
    simp only [hfind] at hlong
    cases hrest : long.dropWhile (· ≠ '=') with
    | nil => simpa only [hrest] using hlong
    | cons sign value => simpa only [hrest] using hlong
  | none =>
    -- a request for help or the version is refused as well, after the pending value
    simp only [hfind] at hlong
    cases hrest : long.dropWhile (· ≠ '=') with
    | nil =>
      simp only [hrest] at hlong
      split_ifs at hlong
      · exact absurd hlong (refuse_ne_ok _)
      · exact absurd hlong (refuse_ne_ok _)
    | cons sign value =>
      simp only [hrest] at hlong
      split_ifs at hlong

/-- A word with one dash that is taken is the letter of an option of the command. -/
theorem exists_of_shortWord_eq_ok (hshort : shortWord command reading letter rest = .ok taken) :
    ∃ opt ∈ command.options, opt.short = some letter ∧
      (reading.await opt = .ok taken ∨ ∃ value, reading.attach opt value = .ok taken) := by
  unfold shortWord at hshort
  cases hfind : command.options.find? (·.short == some letter) with
  | some opt =>
    have hopt := List.find?_some hfind
    refine ⟨opt, List.mem_of_find?_eq_some hfind, beq_iff_eq.mp hopt, ?_⟩
    simp only [hfind] at hshort
    split at hshort
    · exact .inl hshort
    · exact .inr ⟨_, hshort⟩
    · exact .inr ⟨_, hshort⟩
  | none =>
    simp only [hfind] at hshort
    split_ifs at hshort
    · exact absurd hshort (refuse_ne_ok _)
    · exact absurd hshort (refuse_ne_ok _)

/-- How a word is taken that is no name of a command. -/
inductive Takes (command : Command) (reading : Reading) (word : String) : Reading → Prop
  /-- As an option after two dashes. -/
  | long {long : List Char} {taken : Reading} (hword : word.toList = '-' :: '-' :: long)
    (htaken : longWord command reading long = .ok taken) : Takes command reading word taken
  /-- As an option after one dash. -/
  | short {letter : Char} {rest : List Char} {taken : Reading} (hletter : letter ≠ '-')
    (hword : word.toList = '-' :: letter :: rest)
    (htaken : shortWord command reading letter rest = .ok taken) : Takes command reading word taken
  /-- As the value of the option before it. -/
  | value (hword : ∀ long, word.toList ≠ '-' :: '-' :: long)
    (hawaits : reading.awaitsValue = true) : Takes command reading word (reading.supply word)

/-- A word that is taken changes nothing about what the reading and the words amount to. -/
theorem Takes.total_eq (htakes : Takes command reading word taken) (hsign : '=' ∉ name.toList)
    (hletter : ∀ opt ∈ command.options, opt.long = name → opt.short = none) :
    taken.total name words = reading.total name (word :: words) := by
  have htotal : reading.total name (word :: words) =
      Given.texts reading.given name ++ reading.due name (word :: words) ++
        (spelledBy name word words ++ spelled name words) := rfl
  rw [htotal]
  cases htakes with
  | @long long _ hword htaken =>
    -- what the reader finds at the sign is what the word spells
    obtain ⟨opt, -, hopt, htaken⟩ := exists_of_longWord_eq_ok htaken
    rw [spelledBy_of_long hsign hword, ← hopt, ← List.append_assoc]
    split at htaken
    next hrest => exact total_of_await htaken words (word :: words)
    next value hrest => exact total_of_attach htaken words (word :: words)
  | @short letter rest _ hdash hword htaken =>
    obtain ⟨opt, hmem, hopt, htaken⟩ := exists_of_shortWord_eq_ok htaken
    -- no letter stands for the option that is asked for, so the one that is taken is another
    have hother : opt.long ≠ name := by
      intro hlong
      rw [hletter opt hmem hlong] at hopt
      cases hopt
    have hspelled : spelledBy name word words = [] := by
      refine spelledBy_eq_nil_of_forall_ne fun long hlong => hdash ?_
      rw [hword] at hlong
      exact (List.cons.inj (List.cons.inj hlong).2).1
    rw [hspelled, List.nil_append]
    rcases htaken with hawait | ⟨value, hattach⟩
    · rw [total_of_await hawait words (word :: words), if_neg hother, List.append_nil]
    · rw [total_of_attach hattach words (word :: words), if_neg hother, List.append_nil]
  | value hword hawaits =>
    -- what was due before is the word itself, and it still is, now as the pending value
    have hdue : (reading.supply word).due name words = reading.due name (word :: words) := by
      unfold awaitsValue at hawaits
      split at hawaits
      next opt hpending => simp [due, supply, hpending, Pending.due]
      next => cases hawaits
    rw [spelledBy_eq_nil_of_forall_ne hword, List.nil_append, total, hdue, supply]

end Reading

/-! ## Runs of the reader -/

section Runs

variable {command : Command} {reading final : Reading} {rest? : Option (String × List String)}

/-- What becomes of a word: it names a command, it ends the options, or it is taken. -/
theorem cases_of_readWords_cons
    (hread : readWords command reading false (word :: words) = .ok (final, rest?)) :
    (command.commands.contains word = true ∧ final = reading ∧ rest? = some (word, words)) ∨
      (word.toList = ['-', '-'] ∧ readWords command reading true words = .ok (final, rest?)) ∨
      ∃ taken, Reading.Takes command reading word taken ∧
        readWords command taken false words = .ok (final, rest?) := by
  unfold readWords at hread
  simp only [Bool.false_eq_true, if_false] at hread
  split at hread
  next hcommand =>
    cases hread
    exact .inl ⟨(Bool.and_eq_true_iff.mp hcommand).2, rfl, rfl⟩
  next =>
    refine .inr ?_
    split at hread
    next hword => exact .inl ⟨hword, hread⟩
    next long hdashes hword =>
      obtain ⟨taken, htaken, hread⟩ := exists_of_bind_eq_ok hread
      exact .inr ⟨taken, .long hword htaken, hread⟩
    next letter rest hdashes hlong hword =>
      obtain ⟨taken, htaken, hread⟩ := exists_of_bind_eq_ok hread
      exact .inr ⟨taken, .short hlong hword htaken, hread⟩
    next hdashes hlong hshort =>
      split at hread
      next hawaits =>
        exact .inr ⟨_, .value (fun long hword => hshort _ _ hword) hawaits, hread⟩
      next => cases hread

/-- After two dashes alone no word is taken. -/
theorem eq_of_readWords_escaped
    (hread : readWords command reading true words = .ok (final, rest?)) :
    words = [] ∧ final = reading ∧ rest? = none := by
  cases words with
  | nil => cases hread; exact ⟨rfl, rfl, rfl⟩
  | cons word words => cases hread

/-- The reader stops early only at the name of a command. -/
theorem mem_commands_of_readWords {inner : String} {rest : List String}
    (hread : readWords command reading false words = .ok (final, some (inner, rest))) :
    inner ∈ command.commands := by
  induction words generalizing reading with
  | nil => cases hread
  | cons word words ih =>
    obtain ⟨hcommand, -, hrest⟩ | ⟨-, hescaped⟩ | ⟨taken, -, hread⟩ := cases_of_readWords_cons hread
    · cases hrest
      exact List.contains_iff_mem.mp hcommand
    · cases (eq_of_readWords_escaped hescaped).2.2
    · exact ih hread

/-- An option that is spelled by its long name only, among words that cannot be mistaken for it. -/
structure Command.SpellsOut (command : Command) (name : String) : Prop where
  /-- The option has a name. -/
  name_ne : name ≠ ""
  /-- The name has no sign in it. -/
  sign : '=' ∉ name.toList
  /-- No letter stands for it. -/
  letter : ∀ opt ∈ command.options, opt.long = name → opt.short = none
  /-- No command inside has a name with dashes. -/
  commands : ∀ inner ∈ command.commands, ∀ long, inner.toList ≠ '-' :: '-' :: long

variable (hspells : command.SpellsOut name)

include hspells

/-- A run of the reader, up to the end or up to the name of a command inside, comes to what the
reading and the words ahead of it amounted to. -/
theorem total_of_readWords (hread : readWords command reading false words = .ok (final, rest?))
    (hfinal : final.awaitsValue = false) :
    Given.texts final.given name ++ final.due name [] ++
        rest?.elim [] (fun rest => spelled name rest.2) =
      reading.total name words := by
  -- every word that is taken keeps the total, so only the last word needs a look
  induction words generalizing reading with
  | nil => cases hread; rfl
  | cons word words ih =>
    obtain ⟨hcommand, rfl, rfl⟩ | ⟨hword, hescaped⟩ | ⟨taken, htakes, hread⟩ :=
      cases_of_readWords_cons hread
    -- the name of a command spells nothing, and whatever follows it is left
    · have hspelled : spelledBy name word words = [] :=
        spelledBy_eq_nil_of_forall_ne (hspells.commands word (List.contains_iff_mem.mp hcommand))
      exact (Reading.total_cons_of_spelledBy_eq_nil hfinal hspelled).symm
    · obtain ⟨rfl, rfl, rfl⟩ := eq_of_readWords_escaped hescaped
      -- the two dashes alone are no option, since every option has a name
      have hspelled : spelledBy name word [] = [] := by
        rw [spelledBy_of_long hspells.sign hword, if_neg]
        exact fun hempty => hspells.name_ne hempty.symm
      exact (Reading.total_cons_of_spelledBy_eq_nil hfinal hspelled).symm
    · rw [ih hread, htakes.total_eq hspells.sign hspells.letter]

/-- What was given in front of the name of a command, and what is spelled after it. -/
theorem spelled_of_readWords {inner : String} {rest : List String} {settled : Reading}
    (hread : readWords command {} false words = .ok (final, some (inner, rest)))
    (hsettle : final.settle = .ok settled) :
    spelled name words = Given.texts settled.given name ++ spelled name rest := by
  obtain ⟨hfinal, -, htexts⟩ := Reading.settle_spec name hsettle
  have htotal := total_of_readWords hspells hread hfinal
  rw [← htexts] at htotal
  exact htotal.symm

/-- What the options of a command give is what its words spell. -/
theorem texts_of_readOptions {given : Given} (hcommands : command.commands = [])
    (hgiven : readOptions command words = .ok given) :
    Given.texts given name = spelled name words := by
  obtain ⟨⟨final, rest?⟩, hread, hgiven⟩ := exists_of_bind_eq_ok hgiven
  obtain ⟨settled, hsettle, hgiven⟩ := exists_of_bind_eq_ok hgiven
  cases hgiven
  obtain ⟨hfinal, -, htexts⟩ := Reading.settle_spec name hsettle
  have htotal := total_of_readWords hspells hread hfinal
  cases rest? with
  -- a command without commands inside is read to the end
  | some rest =>
    have hinner := mem_commands_of_readWords hread
    rw [hcommands] at hinner
    cases hinner
  | none =>
    rw [← htexts, Option.elim_none, List.append_nil] at htotal
    exact htotal

end Runs

/-! ## Whole command lines -/

/-- The value of an option is the first one that was given. -/
theorem text?_eq_head? (given : Given) (long : String) :
    given.text? long = (given.texts long).head? := by
  unfold Given.text? Given.texts
  induction given with
  | nil => rfl
  | cons entry given ih =>
    rw [List.lookup_cons, List.filterMap_cons]
    by_cases hlong : entry.1 = long
    · simp [hlong]
    · rw [beq_eq_false_iff_ne.mpr (Ne.symm hlong), if_neg hlong]
      exact ih

/-- An accepted command line was put together from two sides, in front of the command and after it,
which together were given what the words spell. -/
theorem exists_given_of_ofWords {arguments : Arguments} (name : String)
    (hwords : Arguments.ofWords words = .ok arguments) (hprogram : program.SpellsOut name)
    (hserver : serverCommand.SpellsOut name) (hclient : clientCommand.SpellsOut name) :
    ∃ (outer inner : Given) (side : Side), arguments = .ofGiven outer inner side ∧
      spelled name words = outer.texts name ++ inner.texts name := by
  obtain ⟨⟨final, rest?⟩, hread, hwords⟩ := exists_of_bind_eq_ok hwords
  dsimp only at hwords
  split at hwords
  next =>
    -- without a command the line is refused
    obtain ⟨settled, -, hwords⟩ := exists_of_bind_eq_ok hwords
    split at hwords <;> cases hwords
  next rest =>
    obtain ⟨inner, hinner, hwords⟩ := exists_of_bind_eq_ok hwords
    obtain ⟨settled, hsettle, hwords⟩ := exists_of_bind_eq_ok hwords
    cases hwords
    refine ⟨settled.given, inner, _, rfl, ?_⟩
    rw [spelled_of_readWords hprogram hread hsettle, texts_of_readOptions hserver rfl hinner]
  next rest =>
    obtain ⟨inner, hinner, hwords⟩ := exists_of_bind_eq_ok hwords
    obtain ⟨settled, hsettle, hwords⟩ := exists_of_bind_eq_ok hwords
    cases hwords
    refine ⟨settled.given, inner, _, rfl, ?_⟩
    rw [spelled_of_readWords hprogram hread hsettle, texts_of_readOptions hclient rfl hinner]
  next => cases hwords

/-- The log level of an accepted command line is the one that its words spell, if they spell one. If
they spell none, it is the default. -/
theorem logLevel_of_ofWords {arguments : Arguments}
    (hwords : Arguments.ofWords words = .ok arguments) :
    (spelled "log-level" words = [] → arguments.logLevel = "info") ∧
      ∀ level, spelled "log-level" words = [level] → arguments.logLevel = level := by
  obtain ⟨outer, inner, side, rfl, hspelled⟩ := exists_given_of_ofWords "log-level" hwords
    ⟨by decide, by decide, by decide, by simp [program]⟩
    ⟨by decide, by decide, by decide, by simp [serverCommand]⟩
    ⟨by decide, by decide, by decide, by simp [clientCommand]⟩
  have hlevel : (Arguments.ofGiven outer inner side).logLevel =
      ((inner.texts "log-level").head?.or (outer.texts "log-level").head?).getD "info" := by
    rw [← text?_eq_head?, ← text?_eq_head?]
    rfl
  rw [hspelled, hlevel]
  constructor
  · intro hnone
    obtain ⟨houter, hinner⟩ := List.append_eq_nil_iff.mp hnone
    rw [houter, hinner]
    rfl
  · intro level hone
    -- the one value stands on one of the two sides
    obtain ⟨houter, hinner⟩ | ⟨houter, hinner⟩ := List.append_eq_singleton_iff.mp hone
    · rw [houter, hinner]
      rfl
    · rw [houter, hinner]
      rfl

end DatagramEcho.CommandLine
