import MacKinect.FreenectV1.Backend

/-! `main` of main.cpp: the argument loop, the choice between the GUI and the CLI, and the CLI
report over the two backends. The loop body reads `argv[i]` and, when `i + 1 < argc`,
`argv[i + 1]`, which `--preview` and `--backend` may consume. A backend is seen through what
its `probe()`, `listDevices()` and `preview()` answer; `preview()` answers for the number of
seconds it is asked, since how many frames it sees depends on the time it runs. -/
namespace MacKinect.Cli

open FreenectV1 (stoi DeviceInfo)

inductive BackendChoice where
  | kAuto
  | kV1
  | kV2
  deriving DecidableEq, Repr

structure Options where
  runPreview : Bool := false
  listDevices : Bool := false
  previewSeconds : Int := 5
  backend : BackendChoice := .kAuto
  deriving DecidableEq, Repr

/-- ParsePositiveInt, as the value it stores: `none` where it returns false, `std::stoi`
throwing included. -/
def parsePositiveInt (text : String) : Option Int :=
  match stoi text with
  | some parsed => if parsed ≤ 0 then none else some parsed
  | none => none

def parseBackendChoice (raw : String) : Option BackendChoice :=
  if raw = "auto" then some .kAuto
  else if raw = "v1" then some .kV1
  else if raw = "v2" then some .kV2
  else none

def matchesChoice (generation : KinectGeneration) : BackendChoice → Bool
  | .kAuto => true
  | .kV1 => generation = .kV1
  | .kV2 => generation = .kV2

/-! ## The argument loop -/

/-- The locals of main's loop: `options`, `gui_mode` and `cli_mode`. -/
structure ArgState where
  options : Options := {}
  guiMode : Bool := false
  cliMode : Bool := false
  deriving DecidableEq, Repr

/-- The two early returns of the loop: the usage text with `EXIT_SUCCESS`, and a line on
`std::cerr` with `EXIT_FAILURE`. -/
inductive Stop where
  | usage
  | invalid (message : String)
  deriving DecidableEq, Repr

def previewPrefix : String := "--preview="

def backendExpectsValue : String := "--backend expects one value: auto, v1, or v2"

/-- `argv[i][0] != '-'`; the empty argument's first byte is the terminating zero. -/
def startsWithDash (arg : String) : Bool := arg.toList.head? = some '-'

/-- `--preview` and `--list` are the arguments that set `cli_mode`. -/
def isCliArg (arg : String) : Bool :=
  arg = "--list" || arg = "--preview" || previewPrefix.toList.isPrefixOf arg.toList

/-- `--preview` and every `--preview=` argument set `run_preview` and `cli_mode`. -/
def ArgState.previewing (s : ArgState) : ArgState :=
  { s with options := { s.options with runPreview := true }, cliMode := true }

/-- One pass of the loop body on `arg`, with `next` the argument after it if there is one:
the state after it and whether it consumed `next` (`++i`). -/
def body (arg : String) (next : Option String) (s : ArgState) : Except Stop (ArgState × Bool) :=
  if arg = "--help" ∨ arg = "-h" then .error .usage
  else if arg = "--gui" then .ok ({ s with guiMode := true }, false)
  else if arg = "--list" then
    .ok ({ s with options := { s.options with listDevices := true }, cliMode := true }, false)
  else if arg = "--preview" then
    match next with
    | some value =>
      if !startsWithDash value then
        match parsePositiveInt value with
        | some seconds =>
          .ok ({ s.previewing with options := { s.previewing.options with previewSeconds := seconds } },
            true)
        | none => .error (.invalid ("Invalid preview seconds: " ++ value))
      else .ok (s.previewing, false)
    | none => .ok (s.previewing, false)
  else if previewPrefix.toList.isPrefixOf arg.toList then
    match parsePositiveInt ⟨arg.toList.drop previewPrefix.length⟩ with
    | some seconds =>
      .ok ({ s.previewing with options := { s.previewing.options with previewSeconds := seconds } },
        false)
    | none => .error (.invalid ("Invalid preview seconds: " ++ arg))
  else if arg = "--backend" then
    match next with
    | some value =>
      match parseBackendChoice value with
      | some choice => .ok ({ s with options := { s.options with backend := choice } }, true)
      | none => .error (.invalid ("Invalid backend value: " ++ value))
    | none => .error (.invalid backendExpectsValue)
  else .ok (s, false)

/-- The loop `for (int i = 1; i < argc; ++i)` over `argv[i..]`; `skip` says the body before
consumed `argv[i]` with its own `++i`. -/
def parseArgs : List String → ArgState → Bool → Except Stop ArgState
  | [], s, _ => .ok s
  | _ :: rest, s, true => parseArgs rest s false
  | arg :: rest, s, false => do
    let (s, consumed) ← body arg rest.head? s
    parseArgs rest s consumed

/-- What main goes on to do once the loop is over. -/
inductive Launch where
  | usage
  | invalid (message : String)
  | gui
  | cli (options : Options)
  deriving DecidableEq, Repr

/-- `argc == 1` sets `gui_mode` before the loop; the GUI runs when `gui_mode && !cli_mode`. -/
def launch (args : List String) : Launch :=
  match parseArgs args { guiMode := args.isEmpty } false with
  | .error .usage => .usage
  | .error (.invalid message) => .invalid message
  | .ok s => if s.guiMode && !s.cliMode then .gui else .cli s.options

/-! ## What the loop keeps -/

theorem stoi_bounds {text : String} {value : Int} (parsed : stoi text = some value) :
    -2 ^ 31 ≤ value ∧ value < 2 ^ 31 := by
  simp only [stoi] at parsed
  split_ifs at parsed <;> cases parsed <;> omega

theorem stoi_dash {text : String} (dash : startsWithDash text) {value : Int}
    (parsed : stoi text = some value) : value ≤ 0 := by
  rcases text with ⟨_ | ⟨c, rest⟩⟩
  · exact absurd dash (by decide)
  · obtain rfl : c = '-' := by simpa [startsWithDash] using dash
    simp only [stoi, String.toList, List.dropWhile_cons_of_neg (by decide : ¬FreenectV1.isSpace '-' = true),
      if_true] at parsed
    split_ifs at parsed
    cases parsed
    omega

theorem parseBackendChoice_no_dash {value : String} {choice : BackendChoice}
    (parsed : parseBackendChoice value = some choice) : startsWithDash value = false := by
  unfold parseBackendChoice at parsed
  split_ifs at parsed <;> cases parsed <;> subst value <;> rfl

theorem isCliArg_dash {arg : String} (cli : isCliArg arg) : startsWithDash arg := by
  simp only [isCliArg, Bool.or_eq_true, decide_eq_true_eq] at cli
  rcases cli with (rfl | rfl) | prefixed
  · rfl
  · rfl
  · obtain ⟨rest, split⟩ := List.isPrefixOf_iff_prefix.mp prefixed
    rw [startsWithDash, ← split]
    rfl

theorem parsePositiveInt_bounds {text : String} {seconds : Int}
    (parsed : parsePositiveInt text = some seconds) : 0 < seconds ∧ seconds < 2 ^ 31 := by
  unfold parsePositiveInt at parsed
  split at parsed
  · next value read =>
    split_ifs at parsed with positive
    cases parsed
    exact ⟨by omega, (stoi_bounds read).2⟩
  · cases parsed

/-- `std::stoi` reads a text that starts with `-` as zero or less, so ParsePositiveInt
refuses it. -/
theorem parsePositiveInt_dash {text : String} (dash : startsWithDash text) :
    parsePositiveInt text = none := by
  unfold parsePositiveInt
  split
  · next value read => rw [if_pos (stoi_dash dash read)]
  · rfl

/-- The state the loop keeps: the preview length is a positive `int`, and `cli_mode` is set
exactly when a listing or a preview was asked for. -/
structure ArgState.Valid (s : ArgState) : Prop where
  seconds_pos : 0 < s.options.previewSeconds
  seconds_lt : s.options.previewSeconds < 2 ^ 31
  cliMode : s.cliMode = (s.options.listDevices || s.options.runPreview)

theorem valid_default : ({} : ArgState).Valid := ⟨by decide, by decide, rfl⟩

/-- What a pass of the body that does not return does: `--gui` sets `gui_mode`, the
arguments of `isCliArg` set `cli_mode`, the state stays valid, and a consumed argument does
not start with `-`. -/
structure BodyStep (arg : String) (next : Option String) (s s' : ArgState) (consumed : Bool) :
    Prop where
  gui : s'.guiMode ↔ s.guiMode ∨ arg = "--gui"
  cli : s'.cliMode ↔ s.cliMode ∨ isCliArg arg
  valid : s.Valid → s'.Valid
  taken : consumed → ∃ value, next = some value ∧ startsWithDash value = false

theorem ArgState.Valid.previewing {s : ArgState} (valid : s.Valid) : s.previewing.Valid :=
  ⟨valid.seconds_pos, valid.seconds_lt, by simp [ArgState.previewing]⟩

theorem valid_previewSeconds (s : ArgState) {text : String} {seconds : Int}
    (parsed : parsePositiveInt text = some seconds) :
    ({ s.previewing with options := { s.previewing.options with previewSeconds := seconds } }).Valid :=
  ⟨(parsePositiveInt_bounds parsed).1, (parsePositiveInt_bounds parsed).2,
    by simp [ArgState.previewing]⟩

/-- The messages a pass of the body stops with: each names the argument it could not read,
`arg` itself or the `next` it consumed, or says that `--backend` came last. -/
def NamesArgument (arg : String) (next : Option String) (message : String) : Prop :=
  message = "Invalid preview seconds: " ++ arg ∨ message = backendExpectsValue ∨
    ∃ value, next = some value ∧
      (message = "Invalid preview seconds: " ++ value ∨ message = "Invalid backend value: " ++ value)

/-- What one pass of the body does, whichever way it ends. -/
def BodyOutcome (arg : String) (next : Option String) (s : ArgState) :
    Except Stop (ArgState × Bool) → Prop
  | .ok (s', consumed) => BodyStep arg next s s' consumed
  | .error .usage => arg = "--help" ∨ arg = "-h"
  | .error (.invalid message) => NamesArgument arg next message

theorem body_outcome (arg : String) (next : Option String) (s : ArgState) :
    BodyOutcome arg next s (body arg next s) := by
  unfold body
  by_cases help : arg = "--help" ∨ arg = "-h"
  · rw [if_pos help]
    exact help
  rw [if_neg help]
  by_cases gui : arg = "--gui"
  · rw [if_pos gui]
    subst gui
    have cli : isCliArg "--gui" = false := rfl
    exact ⟨by simp, by simp [cli], fun valid => ⟨valid.1, valid.2, valid.3⟩, nofun⟩
  rw [if_neg gui]
  by_cases list : arg = "--list"
  · rw [if_pos list]
    subst list
    have cli : isCliArg "--list" = true := rfl
    exact ⟨by simp, by simp [cli], fun valid => ⟨valid.1, valid.2, by simp [valid.3]⟩, nofun⟩
  rw [if_neg list]
  by_cases preview : arg = "--preview"
  · rw [if_pos preview]
    subst preview
    have cli : isCliArg "--preview" = true := rfl
    have mode : s.previewing.guiMode = s.guiMode ∧ s.previewing.cliMode = true := ⟨rfl, rfl⟩
    have unread : BodyStep "--preview" next s s.previewing false :=
      ⟨by simp [mode], by simp [mode, cli], fun valid => valid.previewing, nofun⟩
    match next with
    | some value =>
      dsimp only
      split
      · next dash =>
        split
        · next seconds parsed =>
          exact ⟨by simp [mode], by simp [mode, cli], fun _ => valid_previewSeconds s parsed,
            fun _ => ⟨value, rfl, by simpa using dash⟩⟩
        · exact .inr (.inr ⟨value, rfl, .inl rfl⟩)
      · exact unread
    | none => exact unread
  rw [if_neg preview]
  by_cases prefixed : previewPrefix.toList.isPrefixOf arg.toList
  · rw [if_pos prefixed]
    have cli : isCliArg arg = true := by simp only [isCliArg, prefixed, Bool.or_true]
    split
    · next seconds parsed =>
      exact ⟨by simp [ArgState.previewing, gui], by simp [ArgState.previewing, cli],
        fun _ => valid_previewSeconds s parsed, nofun⟩
    · exact .inl rfl
  rw [if_neg prefixed]
  by_cases backend : arg = "--backend"
  · rw [if_pos backend]
    subst backend
    have cli : isCliArg "--backend" = false := rfl
    match next with
    | some value =>
      dsimp only
      split
      · next choice parsed =>
        exact ⟨by simp, by simp [cli], fun valid => ⟨valid.1, valid.2, valid.3⟩,
          fun _ => ⟨value, rfl, parseBackendChoice_no_dash parsed⟩⟩
      · exact .inr (.inr ⟨value, rfl, .inr rfl⟩)
    | none => exact .inr (.inl rfl)
  rw [if_neg backend]
  have cli : isCliArg arg = false := by
    simp only [isCliArg, list, preview, Bool.eq_false_iff.mpr prefixed, decide_False, Bool.or_self]
  exact ⟨by simp [gui], by simp [cli], id, nofun⟩

theorem body_step {arg : String} {next : Option String} {s s' : ArgState} {consumed : Bool}
    (ran : body arg next s = .ok (s', consumed)) : BodyStep arg next s s' consumed := by
  simpa only [ran] using body_outcome arg next s

theorem parseArgs_cons (arg : String) (rest : List String) (s : ArgState) :
    parseArgs (arg :: rest) s false =
      (body arg rest.head? s).bind fun stepped => parseArgs rest stepped.1 stepped.2 := rfl

/-- The value an option consumed is not read as an option. -/
theorem drop_consumed {rest : List String} {consumed : Bool}
    (taken : consumed → ∃ value, rest.head? = some value ∧ startsWithDash value = false)
    {p : String → Prop} (dashed : ∀ arg, p arg → startsWithDash arg) :
    (∃ arg ∈ rest.drop consumed.toNat, p arg) ↔ ∃ arg ∈ rest, p arg := by
  cases consumed
  · rfl
  · obtain ⟨value, first, plain⟩ := taken rfl
    obtain ⟨rest, rfl⟩ : ∃ rest', rest = value :: rest' := by
      cases rest <;> simp_all
    have : ¬p value := fun read => by simp [dashed value read] at plain
    simp [this]

/-- The modes the loop ends in: `gui_mode` is set by a `--gui` argument and `cli_mode` by an
argument of `isCliArg`, wherever they stand, since the value an option consumes never starts
with `-`; and the state stays valid. `skip` drops the argument an option consumed. -/
theorem parseArgs_modes {args : List String} {s s' : ArgState} {skip : Bool}
    (ran : parseArgs args s skip = .ok s') (valid : s.Valid) :
    (s'.guiMode ↔ s.guiMode ∨ "--gui" ∈ args.drop skip.toNat) ∧
      (s'.cliMode ↔ s.cliMode ∨ ∃ arg ∈ args.drop skip.toNat, isCliArg arg) ∧ s'.Valid := by
  induction args, s, skip using parseArgs.induct generalizing s' with
  | case1 s skip =>
    cases ran
    simp [valid]
  | case2 head rest s ih => simpa using ih ran valid
  | case3 arg rest s ih =>
    rw [parseArgs_cons] at ran
    cases stepped : body arg rest.head? s with
    | error e => simp [stepped, Except.bind] at ran
    | ok step =>
      rw [stepped] at ran
      obtain ⟨gui, cli, keeps, taken⟩ := body_step stepped
      obtain ⟨gui', cli', valid'⟩ := ih step.1 step.2 ran (keeps valid)
      have unreadGui := drop_consumed taken (p := (· = "--gui")) (by rintro _ rfl; rfl)
      have unreadCli := drop_consumed taken (p := (isCliArg · = true)) fun _ => isCliArg_dash
      simp only [exists_eq_right] at unreadGui
      refine ⟨?_, ?_, valid'⟩
      · show _ ↔ _ ∨ "--gui" ∈ arg :: rest
        rw [gui', gui, unreadGui, List.mem_cons, or_assoc, @eq_comm _ "--gui" arg]
      · rw [cli', cli, unreadCli]
        simp [or_assoc]

/-- Every message the loop stops with names an argument of the command line, or says that
`--backend` came last. -/
theorem parseArgs_invalid {args : List String} {s : ArgState} {skip : Bool} {message : String}
    (stopped : parseArgs args s skip = .error (.invalid message)) :
    message = backendExpectsValue ∨ ∃ arg ∈ args,
      message = "Invalid preview seconds: " ++ arg ∨ message = "Invalid backend value: " ++ arg := by
  induction args, s, skip using parseArgs.induct with
  | case1 s skip => cases stopped
  | case2 head rest s ih =>
    obtain last | ⟨arg, read, named⟩ := ih stopped
    · exact .inl last
    · exact .inr ⟨arg, .tail _ read, named⟩
  | case3 arg rest s ih =>
    rw [parseArgs_cons] at stopped
    have outcome := body_outcome arg rest.head? s
    cases stepped : body arg rest.head? s with
    | error e =>
      rw [stepped] at stopped outcome
      cases stopped
      obtain named | last | ⟨value, first, named⟩ := outcome
      · exact .inr ⟨arg, .head _, .inl named⟩
      · exact .inl last
      · exact .inr ⟨value, .tail _ (List.mem_of_mem_head? first), named⟩
    | ok step =>
      rw [stepped] at stopped
      obtain last | ⟨arg, read, named⟩ := ih step.1 step.2 stopped
      · exact .inl last
      · exact .inr ⟨arg, .tail _ read, named⟩

theorem valid_initial (args : List String) : ({ guiMode := args.isEmpty } : ArgState).Valid :=
  ⟨valid_default.1, valid_default.2, rfl⟩

/-- The GUI runs exactly when the loop runs to its end, the command line is empty or holds
`--gui`, and no argument asks for a listing or a preview: any other argument, one the loop
does not know included, turns the GUI into the CLI. -/
theorem launch_gui_iff (args : List String) :
    launch args = .gui ↔ (∃ s, parseArgs args { guiMode := args.isEmpty } false = .ok s) ∧
      (args = [] ∨ "--gui" ∈ args) ∧ ∀ arg ∈ args, isCliArg arg = false := by
  unfold launch
  cases parsed : parseArgs args { guiMode := args.isEmpty } false with
  | error e => cases e <;> simp
  | ok s =>
    obtain ⟨gui, cli, -⟩ := parseArgs_modes parsed (valid_initial args)
    have mode : (s.guiMode && !s.cliMode) = true ↔
        (args = [] ∨ "--gui" ∈ args) ∧ ∀ arg ∈ args, isCliArg arg = false := by
      simp only [Bool.and_eq_true, Bool.not_eq_true', ← Bool.not_eq_true, gui, cli]
      simp
    dsimp only
    by_cases gui : (s.guiMode && !s.cliMode) = true
    · rw [if_pos gui]
      exact iff_of_true rfl ⟨⟨s, rfl⟩, mode.mp gui⟩
    · rw [if_neg gui]
      exact iff_of_false nofun fun ⟨_, asked⟩ => gui (mode.mpr asked)

example : launch [] = .gui ∧ launch ["--backend", "v1"] = .cli { backend := .kV1 } ∧
    launch ["--gui", "--list"] = .cli { listDevices := true } := by decide

/-- When main stops at an argument it cannot read, its message names that argument, or says
that `--backend` came last. -/
theorem launch_invalid_names_argument (args : List String) (message : String)
    (stopped : launch args = .invalid message) :
    message = backendExpectsValue ∨ ∃ arg ∈ args,
      message = "Invalid preview seconds: " ++ arg ∨ message = "Invalid backend value: " ++ arg := by
  unfold launch at stopped
  split at stopped
  · cases stopped
  · next named parsed =>
    cases stopped
    exact parseArgs_invalid parsed
  · split at stopped <;> cases stopped

theorem launch_invalid_names_argument_v3 :
    launch ["--backend", "v3"] = .invalid "Invalid backend value: v3" ∧
      ("Invalid backend value: v3" = backendExpectsValue ∨ ∃ arg ∈ ["--backend", "v3"],
        "Invalid backend value: v3" = "Invalid preview seconds: " ++ arg ∨
          "Invalid backend value: v3" = "Invalid backend value: " ++ arg) :=
  ⟨by decide, launch_invalid_names_argument _ _ (by decide)⟩

theorem launch_options_valid {args : List String} {options : Options}
    (ran : launch args = .cli options) :
    0 < options.previewSeconds ∧ options.previewSeconds < 2 ^ 31 := by
  unfold launch at ran
  split at ran
  · cases ran
  · cases ran
  · next s parsed =>
    split at ran
    · cases ran
    · cases ran
      obtain ⟨-, -, valid⟩ := parseArgs_modes parsed (valid_initial args)
      exact ⟨valid.seconds_pos, valid.seconds_lt⟩

theorem previewPrefix_append_toList (value : String) :
    (previewPrefix ++ value).toList = previewPrefix.toList ++ value.toList := by
  simp [String.toList]

theorem previewPrefix_append_ne (other : String)
    (unprefixed : previewPrefix.toList.isPrefixOf other.toList = false) (value : String) :
    previewPrefix ++ value ≠ other := by
  rintro rfl
  rw [previewPrefix_append_toList, List.isPrefixOf_iff_prefix.mpr (List.prefix_append _ _)] at unprefixed
  cases unprefixed

/-- A value after `--preview` that starts with `-` is not read as its number of seconds: the
loop reads it as an argument of its own and the preview keeps its length. The same value after
`--preview=` is read, and is refused. -/
theorem preview_dash_value (value : String) (dash : startsWithDash value) (rest : List String)
    (s : ArgState) :
    parseArgs ("--preview" :: value :: rest) s false = parseArgs (value :: rest) s.previewing false ∧
      parseArgs ((previewPrefix ++ value) :: rest) s false =
        .error (.invalid ("Invalid preview seconds: " ++ (previewPrefix ++ value))) := by
  constructor
  · rw [parseArgs_cons, List.head?_cons]
    have skipped : body "--preview" (some value) s = .ok (s.previewing, false) := by
      unfold body
      rw [if_neg (by decide), if_neg (by decide), if_neg (by decide), if_pos rfl]
      simp [dash]
    rw [skipped]
    rfl
  · rw [parseArgs_cons]
    have refused : body (previewPrefix ++ value) rest.head? s =
        .error (.invalid ("Invalid preview seconds: " ++ (previewPrefix ++ value))) := by
      unfold body
      rw [if_neg (not_or.mpr ⟨previewPrefix_append_ne "--help" rfl value,
          previewPrefix_append_ne "-h" rfl value⟩),
        if_neg (previewPrefix_append_ne "--gui" rfl value),
        if_neg (previewPrefix_append_ne "--list" rfl value),
        if_neg (previewPrefix_append_ne "--preview" rfl value), previewPrefix_append_toList,
        if_pos (List.isPrefixOf_iff_prefix.mpr (List.prefix_append _ _))]
      have length : previewPrefix.length = previewPrefix.toList.length := rfl
      have same : (⟨value.toList⟩ : String) = value := rfl
      rw [length, List.drop_left, same, parsePositiveInt_dash dash]
    rw [refused]
    rfl

theorem preview_dash_value_minus_five :
    startsWithDash "-5" ∧
      parseArgs ["--preview", "-5"] {} false = parseArgs ["-5"] ({} : ArgState).previewing false ∧
      parseArgs [previewPrefix ++ "-5"] {} false =
        .error (.invalid ("Invalid preview seconds: " ++ (previewPrefix ++ "-5"))) :=
  ⟨rfl, preview_dash_value "-5" rfl [] {}⟩

/-! ## The CLI report -/

structure ProbeResult where
  available : Bool
  detail : String
  deriving DecidableEq, Repr

structure PreviewResult where
  success : Bool := false
  detail : String := ""
  colorFrames : Nat := 0
  depthFrames : Nat := 0
  deriving DecidableEq, Repr

def kinectGenerationLabel : KinectGeneration → String
  | .kV1 => "Kinect v1"
  | .kV2 => "Kinect v2"

/-- A backend as the CLI sees it: what each of its calls answers. -/
structure Backend where
  name : String
  generation : KinectGeneration
  probe : ProbeResult
  devices : List DeviceInfo
  preview : Int → PreviewResult

/-- What the CLI prints and does: the lines of `std::cout` and `std::cerr`, whether it
returns `EXIT_SUCCESS`, and the `preview()` calls it makes, with their seconds. -/
structure Report where
  out : List String
  err : List String
  success : Bool
  previews : List (String × Int)

def previewLines (preview : PreviewResult) : List String :=
  ["  Preview: " ++ (if preview.success then "success" else "failed"),
   "    " ++ preview.detail,
   "    color frames: " ++ toString preview.colorFrames,
   "    depth frames: " ++ toString preview.depthFrames]

/-- The body of the CLI's loop for one backend that matches the choice: the lines it prints,
and the seconds of the `preview()` call it makes if it makes one. -/
def reportBackend (options : Options) (backend : Backend) : List String × Option Int :=
  let status := "[" ++ backend.name ++ "] " ++
    (if backend.probe.available then "available" else "unavailable")
  let probed := status :: if backend.probe.detail.isEmpty then [] else ["  " ++ backend.probe.detail]
  if !backend.probe.available then (probed, none) else
  if backend.devices.isEmpty then (probed ++ ["  Devices: none"], none) else
  let listed := probed ++ "  Devices:" :: backend.devices.map fun device =>
    "    - " ++ kinectGenerationLabel device.generation ++ " serial: " ++ device.serial
  if options.runPreview then
    (listed ++ previewLines (backend.preview options.previewSeconds), some options.previewSeconds)
  else (listed, none)

/-- The CLI part of main over its backends, in order; `selected_backends` counts the ones
that match the choice. -/
def runCli (options : Options) (backends : List Backend) : Report :=
  let selected := backends.filter fun backend => matchesChoice backend.generation options.backend
  let out := selected.flatMap fun backend => (reportBackend options backend).1
  let previews := selected.filterMap fun backend =>
    (reportBackend options backend).2.map fun seconds => (backend.name, seconds)
  if selected.length = 0 then ⟨out, ["No backend matched the requested backend filter."], false, previews⟩
  else ⟨out, [], true, previews⟩

def printUsage (program : String) : List String :=
  ["Usage: " ++ program ++ " [options]",
   "",
   "Options:",
   "  --gui               Run the graphical interface (default if no args)",
   "  --list              List connected devices",
   "  --preview [sec]     Run a CLI preview for N seconds",
   "  --backend [v1|v2]   Force a specific backend",
   "  --help, -h          Show this help"]

/-- What main does with `argv[0]`, the arguments after it and the backends it creates. -/
inductive Run where
  | usage (out : List String)
  | invalid (err : String)
  | gui
  | cli (report : Report)

def main (program : String) (args : List String) (backends : List Backend) : Run :=
  match launch args with
  | .usage => .usage (printUsage program)
  | .invalid message => .invalid message
  | .gui => .gui
  | .cli options => .cli (runCli options backends)

/-! ## What the CLI asks of the backends -/

theorem reportBackend_preview (options : Options) (backend : Backend) (seconds : Int) :
    (reportBackend options backend).2 = some seconds ↔ options.runPreview ∧
      seconds = options.previewSeconds ∧ backend.probe.available ∧ backend.devices ≠ [] := by
  unfold reportBackend
  by_cases available : backend.probe.available
  · by_cases none : backend.devices.isEmpty
    · simp [available, none, List.isEmpty_iff.mp none]
    · by_cases preview : options.runPreview
      · simp [available, none, preview, List.isEmpty_iff.not.mp none, @eq_comm _ seconds]
      · simp [available, none, preview]
  · simp [available]

theorem runCli_previews_eq (options : Options) (backends : List Backend) :
    (runCli options backends).previews =
      (backends.filter fun backend => matchesChoice backend.generation options.backend).filterMap
        fun backend => (reportBackend options backend).2.map fun seconds => (backend.name, seconds) := by
  unfold runCli
  dsimp only
  split <;> rfl

/-- The CLI asks a backend for a preview exactly when the choice selects it, it probed
available and listed a device, and a preview was asked for; it asks for the seconds parsed. -/
theorem runCli_previews (options : Options) (backends : List Backend) (name : String)
    (seconds : Int) :
    (name, seconds) ∈ (runCli options backends).previews ↔
      options.runPreview ∧ seconds = options.previewSeconds ∧ ∃ backend ∈ backends,
        backend.name = name ∧ matchesChoice backend.generation options.backend ∧
          backend.probe.available ∧ backend.devices ≠ [] := by
  rw [runCli_previews_eq]
  simp only [List.mem_filterMap, List.mem_filter, Option.map_eq_some', Prod.mk.injEq,
    reportBackend_preview]
  constructor
  · rintro ⟨backend, ⟨member, chosen⟩, _, ⟨preview, rfl, available, listed⟩, rfl, rfl⟩
    exact ⟨preview, rfl, backend, member, rfl, chosen, available, listed⟩
  · rintro ⟨preview, rfl, backend, member, rfl, chosen, available, listed⟩
    exact ⟨backend, ⟨member, chosen⟩, _, ⟨preview, rfl, available, listed⟩, rfl, rfl⟩

/-- Over every command line, whatever the backends answer, every preview main asks for lasts
a positive number of seconds that fits an `int`, and goes to a backend that the parsed backend
choice selects, that probed available and that listed a device. -/
theorem main_previews_positive (program : String) (args : List String) (backends : List Backend)
    (report : Report) (ran : main program args backends = .cli report) :
    ∃ options, launch args = .cli options ∧ ∀ call ∈ report.previews, 0 < call.2 ∧
      call.2 < 2 ^ 31 ∧ ∃ backend ∈ backends, backend.name = call.1 ∧
        matchesChoice backend.generation options.backend ∧ backend.probe.available ∧
          backend.devices ≠ [] := by
  unfold main at ran
  split at ran
  · cases ran
  · cases ran
  · cases ran
  · next options launched =>
    cases ran
    refine ⟨options, launched, ?_⟩
    rintro ⟨name, seconds⟩ called
    obtain ⟨-, rfl, backend, member, named, chosen, available, listed⟩ :=
      (runCli_previews options backends name seconds).mp called
    exact ⟨(launch_options_valid launched).1, (launch_options_valid launched).2, backend, member,
      named, chosen, available, listed⟩

theorem main_previews_positive_two_seconds :
    let backend : Backend := ⟨"libfreenect (Kinect v1)", .kV1,
      ⟨true, "1 Kinect v1 device(s) detected."⟩, [⟨.kV1, "A00", "Kinect v1"⟩], fun _ => {}⟩
    let report := runCli { runPreview := true, previewSeconds := 2 } [backend]
    main "kinect" ["--preview", "2"] [backend] = .cli report ∧
      ∃ options, launch ["--preview", "2"] = .cli options ∧ ∀ call ∈ report.previews,
        0 < call.2 ∧ call.2 < 2 ^ 31 ∧ ∃ b ∈ [backend], b.name = call.1 ∧
          matchesChoice b.generation options.backend ∧ b.probe.available ∧ b.devices ≠ [] :=
  ⟨rfl, main_previews_positive "kinect" ["--preview", "2"] _ _ rfl⟩

end MacKinect.Cli
