import DatagramEcho.Proofs.CommandLine.Spelled

/-!
# Options as they are written

An option with its value can be written as two words or as one, by its name or by its letter. The
reader goes on after it as it would after any other way to write it. So a whole run over the words
of some options comes to the options with their values, in their order.

* `Entry.Written`: the ways to write an option with its value.
* `Reading.Holds`: what a reading comes to once the value that is pending is checked.
* `readWords_entry`: the reader takes one option, however it is written.
* `readWords_entries`: the reader takes any number of them.
-/

namespace DatagramEcho.CommandLine

/-! ## Values -/

/-- A text of decimal digits spells a number. -/
def Decimal (text : String) (number : ℕ) : Prop :=
  text ≠ "" ∧ text.toList.all Char.isDigit ∧ Nat.ofDigitChars 10 text.toList 0 = number

/-- A value is well-formed for an option. -/
def Opt.Fits (opt : Opt) (value : String) : Prop :=
  match opt.form with
  | .text => True
  | .path => value ≠ ""
  | .number => ∃ number < numberBound, Decimal value number
  | .choice names => value ∈ names

theorem le_ofDigitChars (digits : List Char) (number : ℕ) :
    number ≤ Nat.ofDigitChars 10 digits number := by
  induction digits generalizing number with
  | nil => exact Nat.le_refl _
  | cons digit digits ih =>
    rw [Nat.ofDigitChars_cons]
    have hrest := ih (10 * number + (digit.toNat - '0'.toNat))
    omega

/-- Digits are read to the end if the number that they spell is in range. -/
theorem foldlM_appendDigit {digits : List Char} (hdigits : ∀ digit ∈ digits, digit.isDigit)
    {number : ℕ} (hbound : Nat.ofDigitChars 10 digits number < numberBound) :
    digits.foldlM appendDigit number = .ok (Nat.ofDigitChars 10 digits number) := by
  induction digits generalizing number with
  | nil => rfl
  | cons digit digits ih =>
    rw [Nat.ofDigitChars_cons] at hbound ⊢
    -- the number does not shrink as digits are added, so it is in range all the way
    have hnext : 10 * number + (digit.toNat - '0'.toNat) < numberBound :=
      Nat.lt_of_le_of_lt (le_ofDigitChars digits _) hbound
    have hdigit : digit.isDigit = true := hdigits digit List.mem_cons_self
    have happend : appendDigit number digit = .ok (10 * number + (digit.toNat - '0'.toNat)) := by
      simp only [appendDigit, hdigit, hnext, Bool.not_true, Bool.false_eq_true, if_false, if_true,
        Nat.mul_comm number 10]
    rw [List.foldlM_cons, happend]
    exact ih (fun digit hmem => hdigits digit (List.mem_cons_of_mem _ hmem)) hbound

theorem readNumber_of_decimal {text : String} {number : ℕ} (hdecimal : Decimal text number)
    (hbound : number < numberBound) : readNumber text = .ok number := by
  obtain ⟨hempty, hdigits, rfl⟩ := hdecimal
  have hdigits : ∀ digit ∈ text.toList, digit.isDigit := List.all_eq_true.mp hdigits
  have hread := foldlM_appendDigit hdigits hbound
  unfold readNumber
  split
  next htext => exact absurd (String.toList_eq_nil_iff.mp htext) hempty
  -- a sign is no digit
  next htext => rw [htext] at hdigits; exact absurd (hdigits '+' (by simp)) (by decide)
  next digits hdigitsNe htext =>
    rw [htext] at hdigits
    exact absurd (hdigits '+' (by simp)) (by decide)
  next => exact hread

theorem Opt.check_of_fits {opt : Opt} {value : String} (hfits : opt.Fits value) :
    opt.check value = .ok () := by
  unfold Fits at hfits
  unfold check
  cases hform : opt.form with
  | text => rfl
  | path =>
    rw [hform] at hfits
    have hempty : value.isEmpty = false := by simpa using hfits
    simp only [hempty, Bool.false_eq_true, if_false]
  | number =>
    rw [hform] at hfits
    obtain ⟨number, hbound, hdecimal⟩ := hfits
    simp only [readNumber_of_decimal hdecimal hbound]
  | choice names =>
    rw [hform] at hfits
    simp only [List.contains_iff_mem.mpr hfits, if_true]

/-! ## Options with their values -/

/-- An option with the value that it is given. -/
structure Entry where
  /-- The option. -/
  opt : Opt
  /-- Its value. -/
  value : String

/-- The value is well-formed for the option, and does not look like an option itself. -/
structure Entry.Fits (entry : Entry) : Prop where
  /-- The value is well-formed. -/
  form : entry.opt.Fits entry.value
  /-- It does not begin with a dash. -/
  dash : entry.value.toList.head? ≠ some '-'

/-- The words that an option with its value is written in. -/
inductive Entry.Written (entry : Entry) : List String → Prop
  /-- The name and the value as two words. -/
  | apart : Written entry ["--" ++ entry.opt.long, entry.value]
  /-- The name and the value as one word. -/
  | joined : Written entry ["--" ++ entry.opt.long ++ "=" ++ entry.value]
  /-- The letter and the value. -/
  | letter {letter : Char} (hletter : entry.opt.short = some letter) :
    Written entry [String.ofList ['-', letter], entry.value]

/-- The words that several options are written in, one after the other. -/
inductive Written : List Entry → List String → Prop
  | nil : Written [] []
  | cons {entry : Entry} {entries : List Entry} {words rest : List String}
    (hentry : entry.Written words) (hrest : Written entries rest) :
    Written (entry :: entries) (words ++ rest)

/-- Only an option that may be repeated is given twice. -/
def Once (entries : List Entry) : Prop :=
  entries.Pairwise fun earlier later => earlier.opt = later.opt → later.opt.repeatable = true

/-- What the reader notes down of options with their values. -/
def noted (entries : List Entry) : Given :=
  entries.map fun entry => (entry.opt.long, entry.value)

/-- Every option of a command is found by its name and by its letter, and no word for it can be
taken for something else. -/
structure Command.Unambiguous (command : Command) : Prop where
  /-- The names are different. -/
  longs : ∀ opt ∈ command.options, command.options.find? (·.long == opt.long) = some opt
  /-- So are the letters. -/
  letters : ∀ opt ∈ command.options, opt.short.isSome →
    opt.short ≠ some '-' ∧ command.options.find? (·.short == opt.short) = some opt
  /-- Two dashes are followed by a name, and the sign comes after the name. -/
  names : ∀ opt ∈ command.options, opt.long.toList ≠ [] ∧ '=' ∉ opt.long.toList
  /-- The names of commands have no dash in front. -/
  commands : ∀ inner ∈ command.commands, inner.toList.head? ≠ some '-'

/-- Two options of one name are the same option. -/
theorem Command.Unambiguous.eq_of_long_eq {command : Command} (hcommand : command.Unambiguous)
    {first second : Opt} (hfirst : first ∈ command.options) (hsecond : second ∈ command.options)
    (hlong : first.long = second.long) : first = second := by
  have hfound := hcommand.longs first hfirst
  rw [hlong, hcommand.longs second hsecond] at hfound
  exact (Option.some.inj hfound).symm

theorem unambiguous_program : program.Unambiguous :=
  ⟨by decide, by decide, by decide, by decide⟩

theorem unambiguous_serverCommand : serverCommand.Unambiguous :=
  ⟨by decide, by decide, by decide, by decide⟩

theorem unambiguous_clientCommand : clientCommand.Unambiguous :=
  ⟨by decide, by decide, by decide, by decide⟩

/-! ## One word -/

section Word

variable {command : Command} {reading : Reading} {word : String} {opt : Opt} {value : String}

theorem Command.Unambiguous.contains_eq_false (hcommand : command.Unambiguous) {rest : List Char}
    (hword : word.toList = '-' :: rest) : command.commands.contains word = false := by
  rw [Bool.eq_false_iff]
  intro hcontains
  have hhead := hcommand.commands word (List.contains_iff_mem.mp hcontains)
  rw [hword] at hhead
  exact hhead rfl

theorem readWords_long (hcommand : command.Unambiguous) {long : List Char} (hlong : long ≠ [])
    (hword : word.toList = '-' :: '-' :: long) (words : List String) :
    readWords command reading false (word :: words) =
      Reading.longWord command reading long >>= fun taken =>
        readWords command taken false words := by
  conv_lhs => unfold readWords
  rw [hcommand.contains_eq_false hword, hword]
  cases long with
  | nil => exact absurd rfl hlong
  | cons char long => rw [Bool.and_false]; rfl

theorem readWords_letter (hcommand : command.Unambiguous) {letter : Char} {rest : List Char}
    (hletter : letter ≠ '-') (hword : word.toList = '-' :: letter :: rest) (words : List String) :
    readWords command reading false (word :: words) =
      Reading.shortWord command reading letter rest >>= fun taken =>
        readWords command taken false words := by
  conv_lhs => unfold readWords
  rw [hcommand.contains_eq_false hword, hword, Bool.and_false]
  simp only [Bool.false_eq_true, if_false]
  split
  next hdashes => exact absurd (List.cons.inj (List.cons.inj hdashes).2).1 hletter
  next hdashes => exact absurd (List.cons.inj (List.cons.inj hdashes).2).1 hletter
  next hsame => cases hsame; rfl
  next hother => exact absurd rfl (hother _ _)

/-- The word after an option is its value, even if it is the name of a command. -/
theorem readWords_value (hawaits : reading.awaitsValue = true)
    (hdash : word.toList.head? ≠ some '-') (words : List String) :
    readWords command reading false (word :: words) =
      readWords command (reading.supply word) false words := by
  conv_lhs => unfold readWords
  rw [hawaits]
  simp only [Bool.not_true, Bool.false_and, Bool.false_eq_true, if_false, if_true]
  split
  next hword => exact absurd (by rw [hword]; rfl) hdash
  next hword => exact absurd (by rw [hword]; rfl) hdash
  next hword => exact absurd (by rw [hword]; rfl) hdash
  next => rfl

theorem longWord_apart (hcommand : command.Unambiguous) (hopt : opt ∈ command.options) :
    Reading.longWord command reading opt.long.toList = reading.await opt := by
  obtain ⟨htake, hdrop⟩ : opt.long.toList.takeWhile (· ≠ '=') = opt.long.toList ∧
      opt.long.toList.dropWhile (· ≠ '=') = [] :=
    (cut_eq_iff (hcommand.names opt hopt).2 (by simp)).mpr (List.append_nil _).symm
  unfold Reading.longWord
  simp only [htake, hdrop, String.ofList_toList, hcommand.longs opt hopt]

theorem longWord_joined (hcommand : command.Unambiguous) (hopt : opt ∈ command.options)
    (value : String) :
    Reading.longWord command reading (opt.long.toList ++ '=' :: value.toList) =
      reading.attach opt value := by
  obtain ⟨htake, hdrop⟩ :
      (opt.long.toList ++ '=' :: value.toList).takeWhile (· ≠ '=') = opt.long.toList ∧
        (opt.long.toList ++ '=' :: value.toList).dropWhile (· ≠ '=') = '=' :: value.toList :=
    (cut_eq_iff (hcommand.names opt hopt).2 (by simp)).mpr rfl
  unfold Reading.longWord
  simp only [htake, hdrop, String.ofList_toList, hcommand.longs opt hopt]

theorem shortWord_letter (hcommand : command.Unambiguous) (hopt : opt ∈ command.options)
    {letter : Char} (hletter : opt.short = some letter) :
    Reading.shortWord command reading letter [] = reading.await opt := by
  have hfind := (hcommand.letters opt hopt (by simp [hletter])).2
  rw [hletter] at hfind
  unfold Reading.shortWord
  rw [hfind]

end Word

/-! ## Readings -/

namespace Reading

variable {reading : Reading} {earlier : List Entry} {entry : Entry}

/-- A reading comes to some options with their values, once what is pending is checked. -/
def Holds (reading : Reading) (entries : List Entry) : Prop :=
  reading.settle = .ok { given := noted entries }

theorem Holds.awaitsValue_eq_false (hholds : reading.Holds earlier) :
    reading.awaitsValue = false :=
  (settle_spec "" hholds).1

/-- An option that is not given too often, with a value that fits, is taken. -/
theorem accept_noted (hnew : entry.opt.repeatable = true ∨
      ∀ other ∈ earlier, other.opt.long ≠ entry.opt.long) (hfits : entry.opt.Fits entry.value) :
    accept { given := noted earlier } entry.opt entry.value =
      .ok { given := noted (earlier ++ [entry]) } := by
  have hfree : (!entry.opt.repeatable && (noted earlier).any (·.1 == entry.opt.long)) = false := by
    rcases hnew with hrepeatable | hother
    · rw [hrepeatable, Bool.not_true, Bool.false_and]
    · have hnone : (noted earlier).any (·.1 == entry.opt.long) = false := by
        rw [noted, List.any_map, List.any_eq_false]
        intro other hmem
        simpa using hother other hmem
      rw [hnone, Bool.and_false]
  unfold accept
  rw [hfree, Opt.check_of_fits hfits]
  simp only [noted, List.map_append]
  rfl

/-- An option that has just been given a value in the next word. -/
theorem holds_supply (hnew : entry.opt.repeatable = true ∨
      ∀ other ∈ earlier, other.opt.long ≠ entry.opt.long) (hfits : entry.opt.Fits entry.value) :
    (Reading.supply { given := noted earlier, pending := some ⟨entry.opt, none⟩ } entry.value).Holds
      (earlier ++ [entry]) :=
  accept_noted hnew hfits

theorem Holds.await_eq (hholds : reading.Holds earlier) (opt : Opt) :
    reading.await opt = .ok { given := noted earlier, pending := some ⟨opt, none⟩ } := by
  unfold await
  rw [hholds]
  rfl

theorem Holds.attach_eq (hholds : reading.Holds earlier)
    (hnew : entry.opt.repeatable = true ∨ ∀ other ∈ earlier, other.opt.long ≠ entry.opt.long)
    (hfits : entry.opt.Fits entry.value) :
    reading.attach entry.opt entry.value = .ok { given := noted (earlier ++ [entry]) } := by
  unfold attach
  rw [hholds]
  exact accept_noted hnew hfits

end Reading

/-! ## Runs -/

section Run

variable {command : Command} {reading : Reading} {earlier entries : List Entry} {entry : Entry}
  {words : List String}

/-- An option whose value is the next word, read with that word. -/
theorem readWords_await (hfits : entry.Fits) (hholds : reading.Holds earlier)
    (rest : List String) :
    (reading.await entry.opt >>= fun taken =>
        readWords command taken false (entry.value :: rest)) =
      readWords command (Reading.supply
        { given := noted earlier, pending := some ⟨entry.opt, none⟩ } entry.value) false rest := by
  have hawaits : Reading.awaitsValue
      { given := noted earlier, pending := some ⟨entry.opt, none⟩ } = true := rfl
  rw [hholds.await_eq]
  exact readWords_value hawaits hfits.dash rest

/-- However an option is written, the reader goes on after it with the option taken. -/
theorem readWords_entry (hcommand : command.Unambiguous) (hopt : entry.opt ∈ command.options)
    (hfits : entry.Fits)
    (hnew : entry.opt.repeatable = true ∨ ∀ other ∈ earlier, other.opt.long ≠ entry.opt.long)
    (hwritten : entry.Written words) (hholds : reading.Holds earlier) :
    ∃ taken : Reading, taken.Holds (earlier ++ [entry]) ∧
      ∀ rest, readWords command reading false (words ++ rest) =
        readWords command taken false rest := by
  have hname := (hcommand.names entry.opt hopt).1
  cases hwritten with
  | apart =>
    refine ⟨_, Reading.holds_supply hnew hfits.form, fun rest => ?_⟩
    rw [List.cons_append, List.cons_append, List.nil_append,
      readWords_long hcommand hname (by simp) (entry.value :: rest), longWord_apart hcommand hopt]
    exact readWords_await hfits hholds rest
  | joined =>
    -- a value in the same word is checked at once, one in the next word only later
    refine ⟨{ given := noted (earlier ++ [entry]) }, rfl, fun rest => ?_⟩
    have hword : ("--" ++ entry.opt.long ++ "=" ++ entry.value).toList =
        '-' :: '-' :: (entry.opt.long.toList ++ '=' :: entry.value.toList) := by
      simp
    rw [List.cons_append, List.nil_append, readWords_long hcommand (by simp) hword rest,
      longWord_joined hcommand hopt, hholds.attach_eq hnew hfits.form]
    rfl
  | @letter letter hletter =>
    refine ⟨_, Reading.holds_supply hnew hfits.form, fun rest => ?_⟩
    have hdash : letter ≠ '-' := by
      rintro rfl
      exact (hcommand.letters entry.opt hopt (by simp [hletter])).1 hletter
    rw [List.cons_append, List.cons_append, List.nil_append,
      readWords_letter hcommand hdash String.toList_ofList (entry.value :: rest),
      shortWord_letter hcommand hopt hletter]
    exact readWords_await hfits hholds rest

/-- However options are written, the reader goes on after them with all of them taken. -/
theorem readWords_entries (hcommand : command.Unambiguous)
    (hopts : ∀ entry ∈ earlier ++ entries, entry.opt ∈ command.options)
    (hfits : ∀ entry ∈ entries, entry.Fits) (honce : Once (earlier ++ entries))
    (hwritten : Written entries words) (hholds : reading.Holds earlier) :
    ∃ taken : Reading, taken.Holds (earlier ++ entries) ∧
      ∀ rest, readWords command reading false (words ++ rest) =
        readWords command taken false rest := by
  induction hwritten generalizing earlier reading with
  | nil =>
    rw [List.append_nil]
    exact ⟨reading, hholds, fun rest => rfl⟩
  | @cons entry entries words rest hentry hrest ih =>
    have hmem : entry ∈ earlier ++ entry :: entries := by simp
    have hnew : entry.opt.repeatable = true ∨
        ∀ other ∈ earlier, other.opt.long ≠ entry.opt.long := by
      by_cases hrepeatable : entry.opt.repeatable = true
      · exact .inl hrepeatable
      · refine .inr fun other hother hlong => hrepeatable ?_
        -- an earlier option of the name is the same option
        have hopt : other.opt = entry.opt := hcommand.eq_of_long_eq
          (hopts other (List.mem_append_left _ hother)) (hopts entry hmem) hlong
        exact (List.pairwise_append.mp honce).2.2 other hother entry List.mem_cons_self hopt
    obtain ⟨middle, hmiddle, hfirst⟩ := readWords_entry hcommand (hopts entry hmem)
      (hfits entry List.mem_cons_self) hnew hentry hholds
    rw [List.append_cons] at hopts honce ⊢
    obtain ⟨taken, htaken, hlater⟩ := ih hopts
      (fun entry hentry => hfits entry (List.mem_cons_of_mem _ hentry)) honce hmiddle
    refine ⟨taken, htaken, fun more => ?_⟩
    rw [List.append_assoc, hfirst, hlater]

/-- From the start, the reader takes exactly the options that are written. -/
theorem readWords_of_written (hcommand : command.Unambiguous)
    (hopts : ∀ entry ∈ entries, entry.opt ∈ command.options)
    (hfits : ∀ entry ∈ entries, entry.Fits) (honce : Once entries)
    (hwritten : Written entries words) :
    ∃ taken : Reading, taken.Holds entries ∧
      ∀ rest, readWords command {} false (words ++ rest) = readWords command taken false rest := by
  have hempty : Reading.Holds {} [] := rfl
  rw [← List.nil_append entries] at hopts honce ⊢
  exact readWords_entries hcommand hopts hfits honce hwritten hempty

end Run

end DatagramEcho.CommandLine
