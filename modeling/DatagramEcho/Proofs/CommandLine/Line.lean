import DatagramEcho.Configuration
import DatagramEcho.Proofs.CommandLine.Written
import Mathlib.Data.List.Forall2

/-!
# What a command line says

A command line names a side of the exchange. Options of that side are written after its name, and
the common ones on either side of it. What the line says is what each option is given: it does not
matter in which order options stand, how each of them is written, and on which side of the name a
common one is.

* `Line` and `Line.Written`: a command line, and the words that it is written in.
* `Arguments.Says`: the arguments are the values that are given, and no others.
* `ofWords_of_written`: every command line is accepted and says what it is given, however it is
  written.
-/

namespace DatagramEcho

/-- A name is found by itself. -/
theorem Choice.exists_of_mem_names {α : Type} [Choice α] {text : String}
    (hname : text ∈ Choice.names α) :
    ∃ choice : α, Choice.ofName? text = some choice ∧ Choice.name choice = text := by
  obtain ⟨value, hvalue, rfl⟩ := List.mem_map.mp hname
  have hsome : (Choice.ofName? (Choice.name value) : Option α).isSome := by
    unfold Choice.ofName?
    rw [List.find?_isSome]
    exact ⟨value, hvalue, beq_self_eq_true _⟩
  obtain ⟨choice, hchoice⟩ := Option.isSome_iff_exists.mp hsome
  have hname := List.find?_some hchoice
  exact ⟨choice, hchoice, beq_iff_eq.mp hname⟩

namespace CommandLine

/-! ## Lines -/

/-- The side of the exchange that a command line names. -/
inductive Role where
  /-- The server. -/
  | server
  /-- The client. -/
  | client

/-- The name of a side. -/
def Role.name : Role → String
  | server => "server"
  | client => "client"

/-- The command of a side. -/
def Role.command : Role → Command
  | server => serverCommand
  | client => clientCommand

/-- A command line: a side of the exchange, the options in front of its name, and those after it. -/
structure Line where
  /-- The side. -/
  role : Role
  /-- The options in front of its name. -/
  outer : List Entry
  /-- The options after its name. -/
  inner : List Entry

/-- The values that options give to a name, in order. -/
def valuesOf (entries : List Entry) (long : String) : List String :=
  (entries.filter (·.opt.long = long)).map (·.value)

namespace Line

/-- The values that a line gives to an option, in order. -/
def values (line : Line) (long : String) : List String :=
  valuesOf (line.outer ++ line.inner) long

/-- The options are where they may be, none is given too often, and each has a value that fits. -/
structure WellFormed (line : Line) : Prop where
  /-- In front of the name are common options. -/
  outer : ∀ entry ∈ line.outer, entry.opt ∈ commonOptions
  /-- After the name are options of the side, among them the common ones. -/
  inner : ∀ entry ∈ line.inner, entry.opt ∈ line.role.command.options
  /-- All values fit. -/
  fits : ∀ entry ∈ line.outer ++ line.inner, entry.Fits
  /-- No option is given too often. -/
  once : Once (line.outer ++ line.inner)

/-- The words that a line is written in. -/
def Written (line : Line) (words : List String) : Prop :=
  ∃ front back, words = front ++ line.role.name :: back ∧
    CommandLine.Written line.outer front ∧ CommandLine.Written line.inner back

/-- The arguments that a line gives. -/
def arguments (line : Line) : Arguments :=
  .ofGiven (noted line.outer) (noted line.inner) <|
    match line.role with
    | .server => .server (Given.server (noted line.inner))
    | .client => .client (Given.client (noted line.inner))

end Line

/-! ## What arguments say -/

/-- Arguments of a server are the values given to its options. -/
structure ServerArguments.Says (arguments : ServerArguments) (values : String → List String) :
    Prop where
  listen : arguments.listen.toList = values "listen"
  bufferSize : List.Forall₂ Decimal (values "buffer-size") arguments.bufferSize.toList
  emptyPolicy : arguments.emptyPolicy.toList.map Choice.name = values "empty-policy"
  transform : arguments.transform.toList.map Choice.name = values "transform"
  eventLoop : arguments.eventLoop.toList.map Choice.name = values "runtime"

/-- Arguments of a client are the values given to its options. -/
structure ClientArguments.Says (arguments : ClientArguments) (values : String → List String) :
    Prop where
  target : arguments.target.toList = values "target"
  bind : arguments.bind.toList = values "bind"
  bufferSize : List.Forall₂ Decimal (values "buffer-size") arguments.bufferSize.toList
  timeoutMs : List.Forall₂ Decimal (values "timeout-ms") arguments.timeoutMs.toList
  silenceMs : List.Forall₂ Decimal (values "silence-ms") arguments.silenceMs.toList
  emptyPolicy : arguments.emptyPolicy.toList.map Choice.name = values "empty-policy"
  transform : arguments.transform.toList.map Choice.name = values "transform"
  payloads : arguments.payloads = values "payload"

/-- A side of the exchange has the role that is named, and the values given to its options. -/
def Side.Says : Side → Role → (String → List String) → Prop
  | .server arguments, .server, values => arguments.Says values
  | .client arguments, .client, values => arguments.Says values
  | _, _, _ => False

/-- Arguments are the values given to the options, and the default for a log level that is not
given. -/
structure Arguments.Says (arguments : Arguments) (role : Role) (values : String → List String) :
    Prop where
  config : arguments.config.toList = values "config"
  logLevel : arguments.logLevel = (values "log-level").headD "info"
  side : arguments.side.Says role values

/-! Arguments that say the same are the same. -/

theorem eq_of_forall₂_decimal {texts : List String} {first second : Option ℕ}
    (hfirst : List.Forall₂ Decimal texts first.toList)
    (hsecond : List.Forall₂ Decimal texts second.toList) : first = second := by
  -- digits spell one number
  have hunique : Relator.RightUnique Decimal :=
    fun text number number' hnumber hnumber' => hnumber.2.2.symm.trans hnumber'.2.2
  rw [← Option.head?_toList (o := first), ← Option.head?_toList (o := second),
    hunique.forall₂ hfirst hsecond]

theorem eq_of_toList_eq {α : Type} {first second : Option α}
    (heq : first.toList = second.toList) : first = second := by
  rw [← Option.head?_toList (o := first), ← Option.head?_toList (o := second), heq]

theorem eq_of_map_name_eq {α : Type} [Choice α] (hname : Function.Injective (Choice.name (α := α)))
    {first second : Option α}
    (heq : first.toList.map Choice.name = second.toList.map Choice.name) : first = second :=
  eq_of_toList_eq (hname.list_map heq)

theorem EmptyPolicy.name_injective : Function.Injective (Choice.name (α := EmptyPolicy)) := by
  rintro (_ | _) (_ | _) hname <;> first | rfl | exact absurd hname (by decide)

theorem Transform.name_injective : Function.Injective (Choice.name (α := Transform)) := by
  rintro (_ | _) (_ | _) hname <;> first | rfl | exact absurd hname (by decide)

theorem EventLoop.name_injective : Function.Injective (Choice.name (α := EventLoop)) := by
  rintro (_ | _) (_ | _) hname <;> first | rfl | exact absurd hname (by decide)

section Unique

variable {values : String → List String} {role : Role}

theorem ServerArguments.Says.unique {first second : ServerArguments} (hfirst : first.Says values)
    (hsecond : second.Says values) : first = second := by
  have hlisten := eq_of_toList_eq (hfirst.listen.trans hsecond.listen.symm)
  have hbufferSize := eq_of_forall₂_decimal hfirst.bufferSize hsecond.bufferSize
  have hemptyPolicy := eq_of_map_name_eq EmptyPolicy.name_injective
    (hfirst.emptyPolicy.trans hsecond.emptyPolicy.symm)
  have htransform := eq_of_map_name_eq Transform.name_injective
    (hfirst.transform.trans hsecond.transform.symm)
  have heventLoop := eq_of_map_name_eq EventLoop.name_injective
    (hfirst.eventLoop.trans hsecond.eventLoop.symm)
  cases first
  cases second
  simp only at hlisten hbufferSize hemptyPolicy htransform heventLoop
  rw [hlisten, hbufferSize, hemptyPolicy, htransform, heventLoop]

theorem ClientArguments.Says.unique {first second : ClientArguments} (hfirst : first.Says values)
    (hsecond : second.Says values) : first = second := by
  have htarget := eq_of_toList_eq (hfirst.target.trans hsecond.target.symm)
  have hbind := eq_of_toList_eq (hfirst.bind.trans hsecond.bind.symm)
  have hbufferSize := eq_of_forall₂_decimal hfirst.bufferSize hsecond.bufferSize
  have htimeoutMs := eq_of_forall₂_decimal hfirst.timeoutMs hsecond.timeoutMs
  have hsilenceMs := eq_of_forall₂_decimal hfirst.silenceMs hsecond.silenceMs
  have hemptyPolicy := eq_of_map_name_eq EmptyPolicy.name_injective
    (hfirst.emptyPolicy.trans hsecond.emptyPolicy.symm)
  have htransform := eq_of_map_name_eq Transform.name_injective
    (hfirst.transform.trans hsecond.transform.symm)
  have hpayloads := hfirst.payloads.trans hsecond.payloads.symm
  cases first
  cases second
  simp only at htarget hbind hbufferSize htimeoutMs hsilenceMs hemptyPolicy htransform hpayloads
  rw [htarget, hbind, hbufferSize, htimeoutMs, hsilenceMs, hemptyPolicy, htransform, hpayloads]

theorem Arguments.Says.unique {first second : Arguments} (hfirst : first.Says role values)
    (hsecond : second.Says role values) : first = second := by
  have hconfig := eq_of_toList_eq (hfirst.config.trans hsecond.config.symm)
  have hlevel := hfirst.logLevel.trans hsecond.logLevel.symm
  have hside : first.side = second.side := by
    have hfirstSide := hfirst.side
    have hsecondSide := hsecond.side
    cases hone : first.side <;> cases hother : second.side <;> cases role <;>
      rw [hone] at hfirstSide <;> rw [hother] at hsecondSide
    case server.server.server => exact congrArg Side.server (hfirstSide.unique hsecondSide)
    case client.client.client => exact congrArg Side.client (hfirstSide.unique hsecondSide)
    -- the other combinations do not have the role
    all_goals first | exact hfirstSide.elim | exact hsecondSide.elim
  cases first
  cases second
  simp only at hconfig hlevel hside
  rw [hconfig, hlevel, hside]

end Unique

/-! ## Reading a line -/

variable {line : Line} {words : List String}

/-- A line is read up to the name of the side, and then to its end. -/
theorem ofWords_eq_arguments (hline : line.WellFormed) (hwritten : line.Written words) :
    Arguments.ofWords words = .ok line.arguments := by
  obtain ⟨front, back, rfl, hfront, hback⟩ := hwritten
  have hcommand : line.role.command.Unambiguous := by
    cases line.role
    · exact unambiguous_serverCommand
    · exact unambiguous_clientCommand
  -- each side of the name is read from a fresh start, by the rules of its own command
  obtain ⟨outer, houter, hreadOuter⟩ := readWords_of_written unambiguous_program hline.outer
    (fun entry hentry => hline.fits entry (List.mem_append_left _ hentry))
    (List.pairwise_append.mp hline.once).1 hfront
  obtain ⟨inner, hinner, hreadInner⟩ := readWords_of_written hcommand hline.inner
    (fun entry hentry => hline.fits entry (List.mem_append_right _ hentry))
    (List.pairwise_append.mp hline.once).2.1 hback
  -- no option waits for a value when the name is met, so it is taken for the name
  have hname : readWords program {} false (front ++ line.role.name :: back) =
      .ok (outer, some (line.role.name, back)) := by
    rw [hreadOuter, readWords, houter.awaitsValue_eq_false]
    cases line.role <;> rfl
  have hoptions : readOptions line.role.command back = .ok (noted line.inner) := by
    have hread := hreadInner []
    rw [List.append_nil] at hread
    unfold readOptions
    rw [hread]
    show (inner.settle >>= fun settled => .ok settled.given) = _
    rw [hinner]
    rfl
  unfold Arguments.ofWords Line.arguments
  rw [hname]
  cases hrole : line.role with
  | server =>
    rw [hrole] at hoptions
    have hserver : readOptions serverCommand back = .ok (noted line.inner) := hoptions
    show (readOptions serverCommand back >>= _) = _
    rw [hserver]
    show (outer.settle >>= _) = _
    rw [houter]
    rfl
  | client =>
    rw [hrole] at hoptions
    have hclient : readOptions clientCommand back = .ok (noted line.inner) := hoptions
    show (readOptions clientCommand back >>= _) = _
    rw [hclient]
    show (outer.settle >>= _) = _
    rw [houter]
    rfl

/-! ## The values in a line -/

section Values

variable {entries : List Entry} {given : Given} {long : String}

theorem texts_noted (entries : List Entry) (long : String) :
    Given.texts (noted entries) long = valuesOf entries long := by
  unfold Given.texts noted valuesOf
  induction entries with
  | nil => rfl
  | cons entry entries ih =>
    by_cases hlong : entry.opt.long = long
    · simpa [hlong] using ih
    · simpa [hlong] using ih

theorem valuesOf_append (first second : List Entry) (long : String) :
    valuesOf (first ++ second) long = valuesOf first long ++ valuesOf second long := by
  unfold valuesOf
  rw [List.filter_append, List.map_append]

theorem exists_of_mem_valuesOf {value : String} (hvalue : value ∈ valuesOf entries long) :
    ∃ entry ∈ entries, entry.opt.long = long ∧ entry.value = value := by
  obtain ⟨entry, hentry, rfl⟩ := List.mem_map.mp hvalue
  obtain ⟨hmem, hlong⟩ := List.mem_filter.mp hentry
  exact ⟨entry, hmem, of_decide_eq_true hlong, rfl⟩

/-- An option that may not be repeated has at most one value. -/
theorem length_valuesOf_le_one {command : Command} (hcommand : command.Unambiguous)
    (hopts : ∀ entry ∈ entries, entry.opt ∈ command.options) (honce : Once entries)
    (hsingle : ∀ opt ∈ command.options, opt.long = long → opt.repeatable = false) :
    (valuesOf entries long).length ≤ 1 := by
  unfold valuesOf
  rw [List.length_map]
  have hpairs := honce.filter (fun entry => entry.opt.long = long)
  have hmem : ∀ entry ∈ entries.filter (·.opt.long = long),
      entry.opt ∈ command.options ∧ entry.opt.long = long := by
    intro entry hentry
    obtain ⟨hmem, hlong⟩ := List.mem_filter.mp hentry
    exact ⟨hopts entry hmem, of_decide_eq_true hlong⟩
  match hpicked : entries.filter (·.opt.long = long) with
  | [] => rw [hpicked]; simp
  | [_] => rw [hpicked]; simp
  | first :: second :: rest =>
    -- the two are the same option, which may not be repeated
    rw [hpicked] at hpairs hmem
    obtain ⟨hfirst, hfirstLong⟩ := hmem first (by simp)
    obtain ⟨hsecond, hsecondLong⟩ := hmem second (by simp)
    have hsame : first.opt = second.opt :=
      hcommand.eq_of_long_eq hfirst hsecond (hfirstLong.trans hsecondLong.symm)
    have hrepeatable := (List.pairwise_cons.mp hpairs).1 second (by simp) hsame
    rw [hsingle second.opt hsecond hsecondLong] at hrepeatable
    cases hrepeatable

theorem forall₂_number? (hfits : ∀ text ∈ given.text? long,
      ∃ number < numberBound, Decimal text number) :
    List.Forall₂ Decimal (given.text? long).toList (given.number? long).toList := by
  unfold Given.number?
  cases htext : given.text? long with
  | none => exact .nil
  | some text =>
    obtain ⟨number, hbound, hdecimal⟩ := hfits text htext
    rw [Option.bind_some, readNumber_of_decimal hdecimal hbound]
    exact .cons hdecimal .nil

theorem map_name_choice? {α : Type} [Choice α]
    (hfits : ∀ text ∈ given.text? long, text ∈ Choice.names α) :
    (given.choice? long : Option α).toList.map Choice.name = (given.text? long).toList := by
  unfold Given.choice?
  cases htext : given.text? long with
  | none => rfl
  | some text =>
    obtain ⟨choice, hchoice, hname⟩ := Choice.exists_of_mem_names (hfits text htext)
    rw [Option.bind_some, hchoice, ← hname]
    rfl

end Values

section Line

variable {command : Command} {long : String}

theorem Role.unambiguous (role : Role) : role.command.Unambiguous := by
  cases role
  · exact unambiguous_serverCommand
  · exact unambiguous_clientCommand

namespace Line.WellFormed

theorem opt_mem (hline : line.WellFormed) (hcommand : line.role.command = command) :
    ∀ entry ∈ line.outer ++ line.inner, entry.opt ∈ command.options := by
  subst hcommand
  intro entry hentry
  rcases List.mem_append.mp hentry with houter | hinner
  · -- the common options are understood after the name as well
    have hcommon := hline.outer entry houter
    cases line.role
    · exact List.mem_append_right serverOptions hcommon
    · exact List.mem_append_right clientOptions hcommon
  · exact hline.inner entry hinner

theorem length_values_le_one (hline : line.WellFormed) (hcommand : line.role.command = command)
    (hsingle : ∀ opt ∈ command.options, opt.long = long → opt.repeatable = false) :
    (line.values long).length ≤ 1 := by
  have hunambiguous : command.Unambiguous := hcommand ▸ line.role.unambiguous
  exact length_valuesOf_le_one hunambiguous (hline.opt_mem hcommand) hline.once hsingle

/-- An option that is not common is given after the name only. -/
theorem texts_inner (hline : line.WellFormed) (hown : ∀ opt ∈ commonOptions, opt.long ≠ long) :
    Given.texts (noted line.inner) long = line.values long := by
  have houter : valuesOf line.outer long = [] := by
    rw [List.eq_nil_iff_forall_not_mem]
    intro value hvalue
    obtain ⟨entry, hentry, hlong, -⟩ := exists_of_mem_valuesOf hvalue
    exact hown entry.opt (hline.outer entry hentry) hlong
  rw [texts_noted, Line.values, valuesOf_append, houter, List.nil_append]

theorem toList_text? (hline : line.WellFormed) (hcommand : line.role.command = command)
    (hsingle : ∀ opt ∈ command.options, opt.long = long → opt.repeatable = false)
    (hown : ∀ opt ∈ commonOptions, opt.long ≠ long) :
    (Given.text? (noted line.inner) long).toList = line.values long := by
  have hlength := hline.length_values_le_one hcommand hsingle
  rw [text?_eq_head?, hline.texts_inner hown]
  match line.values long, hlength with
  | [], _ => rfl
  | [_], _ => rfl

/-- A value fits the option that it is given to. -/
theorem fits_of_text? (hline : line.WellFormed) (hcommand : line.role.command = command)
    {text : String} (htext : text ∈ Given.text? (noted line.inner) long) :
    ∃ opt ∈ command.options, opt.long = long ∧ opt.Fits text := by
  rw [text?_eq_head?, texts_noted] at htext
  obtain ⟨entry, hentry, hlong, rfl⟩ := exists_of_mem_valuesOf (List.mem_of_mem_head? htext)
  have hmem := List.mem_append_right line.outer hentry
  exact ⟨entry.opt, hline.opt_mem hcommand entry hmem, hlong, (hline.fits entry hmem).form⟩

theorem number (hline : line.WellFormed) (hcommand : line.role.command = command)
    (hsingle : ∀ opt ∈ command.options, opt.long = long → opt.repeatable = false)
    (hform : ∀ opt ∈ command.options, opt.long = long → opt.form = .number)
    (hown : ∀ opt ∈ commonOptions, opt.long ≠ long) :
    List.Forall₂ Decimal (line.values long)
      (Given.number? (noted line.inner) long).toList := by
  rw [← hline.toList_text? hcommand hsingle hown]
  refine forall₂_number? fun text htext => ?_
  obtain ⟨opt, hopt, hlong, hfits⟩ := hline.fits_of_text? hcommand htext
  unfold Opt.Fits at hfits
  rwa [hform opt hopt hlong] at hfits

theorem choice {α : Type} [Choice α] (hline : line.WellFormed)
    (hcommand : line.role.command = command)
    (hsingle : ∀ opt ∈ command.options, opt.long = long → opt.repeatable = false)
    (hform : ∀ opt ∈ command.options, opt.long = long → opt.form = .choice (Choice.names α))
    (hown : ∀ opt ∈ commonOptions, opt.long ≠ long) :
    (Given.choice? (noted line.inner) long : Option α).toList.map Choice.name =
      line.values long := by
  rw [← hline.toList_text? hcommand hsingle hown]
  refine map_name_choice? fun text htext => ?_
  obtain ⟨opt, hopt, hlong, hfits⟩ := hline.fits_of_text? hcommand htext
  unfold Opt.Fits at hfits
  rwa [hform opt hopt hlong] at hfits

/-- A common option may be given on either side of the name. -/
theorem toList_common (hline : line.WellFormed) {opt : Opt} (hopt : opt ∈ commonOptions) :
    ((Given.text? (noted line.inner) opt.long).or
      (Given.text? (noted line.outer) opt.long)).toList = line.values opt.long := by
  have hsingle : ∀ role : Role, ∀ opt ∈ commonOptions, ∀ other ∈ role.command.options,
      other.long = opt.long → other.repeatable = false := by
    intro role
    cases role <;> decide
  have hlength := hline.length_values_le_one rfl (hsingle line.role opt hopt)
  have hvalues : line.values opt.long =
      valuesOf line.outer opt.long ++ valuesOf line.inner opt.long :=
    valuesOf_append line.outer line.inner opt.long
  -- so at most one of the two sides gives a value
  rw [hvalues, List.length_append] at hlength
  rw [text?_eq_head?, text?_eq_head?, texts_noted, texts_noted, hvalues]
  match valuesOf line.outer opt.long, valuesOf line.inner opt.long, hlength with
  | [], [], _ => rfl
  | [], [_], _ => rfl
  | [_], [], _ => rfl
  | _ :: _, _ :: _, hlength => simp only [List.length_cons] at hlength; omega
  | [], _ :: _ :: _, hlength => simp only [List.length_cons] at hlength; omega
  | _ :: _ :: _, [], hlength => simp only [List.length_cons] at hlength; omega

theorem logLevel (hline : line.WellFormed) :
    line.arguments.logLevel = (line.values "log-level").headD "info" := by
  have hmem : logLevelOption ∈ commonOptions := by decide
  have hlevel := hline.toList_common hmem
  rw [List.headD_eq_head?_getD]
  show Option.getD _ "info" = _
  congr 1
  rw [← Option.head?_toList (o := Option.or _ _)]
  exact congrArg List.head? hlevel

/-- The arguments that a line gives say what it gives. -/
theorem arguments_spec (hline : line.WellFormed) :
    line.arguments.Says line.role line.values := by
  have hmem : configOption ∈ commonOptions := by decide
  refine ⟨hline.toList_common hmem, hline.logLevel, ?_⟩
  unfold Line.arguments
  cases hrole : line.role with
  | server =>
    have hcommand : line.role.command = serverCommand := by rw [hrole]; rfl
    exact {
      listen := hline.toList_text? hcommand (by decide) (by decide)
      bufferSize := hline.number hcommand (by decide) (by decide) (by decide)
      emptyPolicy := hline.choice hcommand (by decide) (by decide) (by decide)
      transform := hline.choice hcommand (by decide) (by decide) (by decide)
      eventLoop := hline.choice hcommand (by decide) (by decide) (by decide) }
  | client =>
    have hcommand : line.role.command = clientCommand := by rw [hrole]; rfl
    exact {
      target := hline.toList_text? hcommand (by decide) (by decide)
      bind := hline.toList_text? hcommand (by decide) (by decide)
      bufferSize := hline.number hcommand (by decide) (by decide) (by decide)
      timeoutMs := hline.number hcommand (by decide) (by decide) (by decide)
      silenceMs := hline.number hcommand (by decide) (by decide) (by decide)
      emptyPolicy := hline.choice hcommand (by decide) (by decide) (by decide)
      transform := hline.choice hcommand (by decide) (by decide) (by decide)
      payloads := hline.texts_inner (by decide) }

end Line.WellFormed

/-- A command line is accepted and says what it is given. All command lines that give the same are
read alike, whatever the order and the spelling of their options. -/
theorem ofWords_of_written (hline : line.WellFormed) (hwritten : line.Written words) :
    ∃ arguments, Arguments.ofWords words = .ok arguments ∧
      arguments.Says line.role line.values ∧
      ∀ (line' : Line) (words' : List String), line'.WellFormed → line'.Written words' →
        line'.role = line.role → (∀ long, line'.values long = line.values long) →
          Arguments.ofWords words' = .ok arguments ∧
            ∀ read, (Arguments.ofWords words').map (Configuration.load read) =
              (Arguments.ofWords words).map (Configuration.load read) := by
  have hwords := ofWords_eq_arguments hline hwritten
  refine ⟨line.arguments, hwords, hline.arguments_spec, ?_⟩
  intro line' words' hline' hwritten' hrole hvalues
  -- both lines say the same, and that leaves only one choice of arguments
  have hspec' := hline'.arguments_spec
  rw [hrole, funext hvalues] at hspec'
  have hwords' := ofWords_eq_arguments hline' hwritten'
  rw [hspec'.unique hline.arguments_spec] at hwords'
  exact ⟨hwords', fun read => by rw [hwords', hwords]⟩

/-- A line whose values are the names of commands, nothing, and a number with a leading zero. -/
def oddLine : Line where
  role := .client
  outer := [⟨configOption, "client"⟩]
  inner :=
    let payload : Opt :=
      { long := "payload", short := some 'p', valueName := "PAYLOADS", repeatable := true }
    [⟨payload, ""⟩, ⟨{ long := "timeout-ms", valueName := "TIMEOUT_MS", form := .number }, "07"⟩,
      ⟨payload, "server"⟩]

theorem ofWords_of_written_oddLine :
    let words := ["-c", "client", "client", "-p", "", "--timeout-ms=07", "--payload", "server"]
    oddLine.WellFormed ∧ oddLine.Written words ∧
      ∃ arguments, Arguments.ofWords words = .ok arguments ∧
        arguments.Says .client oddLine.values ∧ oddLine.values "payload" = ["", "server"] := by
  intro words
  have hfits : ∀ entry ∈ oddLine.outer ++ oddLine.inner, entry.Fits := by
    intro entry hentry
    simp only [oddLine, List.cons_append, List.nil_append, List.mem_cons, List.not_mem_nil,
      or_false] at hentry
    rcases hentry with rfl | rfl | rfl | rfl
    · exact ⟨show "client" ≠ "" by decide, by decide⟩
    · exact ⟨trivial, by decide⟩
    · exact ⟨⟨7, by decide, by decide, by decide, by decide⟩, by decide⟩
    · exact ⟨trivial, by decide⟩
  have hline : oddLine.WellFormed := by
    refine ⟨by decide, by decide, hfits, ?_⟩
    show List.Pairwise _ _
    decide
  have hwritten : oddLine.Written words :=
    ⟨["-c", "client"], ["-p", "", "--timeout-ms=07", "--payload", "server"], rfl,
      .cons (.letter rfl) .nil, .cons (.letter rfl) (.cons .joined (.cons .apart .nil))⟩
  obtain ⟨arguments, hwords, hspec, -⟩ := ofWords_of_written hline hwritten
  exact ⟨hline, hwritten, arguments, hwords, hspec, by decide⟩

end Line

end CommandLine

end DatagramEcho
