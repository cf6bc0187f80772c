import Mosaico.Rust.Text
import Mosaico.Shell.Words

/-!
# Whose process a supervisor is

A PTY supervisor is started with the endpoint it owns among its arguments.  Before it is signalled,
its command line is read back from the process table, where the arguments stand joined by blanks
and without quotes, and split into words again.  The main result says which launches survive this.

The splitter is a library function.  It is a parameter here, and the results assume that it splits
as a POSIX shell does.
-/

namespace Mosaico.Ownership

/-! ## The command line of a supervisor -/

/-- What `spawn_session` is asked for, but for the environment of the child. -/
structure SpawnSessionArgs where
  id : Option String
  agent : String
  cwd : String
  channel : Option String
  sessionName : Option String
  ephemeral : Bool
  command : List String
  deriving DecidableEq, Repr

/-- What the spawning process supplies: its executable, fresh endpoint ids, the instance token and
the socket paths. -/
structure SpawnContext where
  currentExe : String
  newEndpointId : String → String
  uniqueToken : String
  sessionSocket : String → String

def SpawnSessionArgs.endpointId (args : SpawnSessionArgs) (context : SpawnContext) : String :=
  args.id.getD (context.newEndpointId args.agent)

/-- The arguments behind the instance token. -/
def trailingArgs (context : SpawnContext) (args : SpawnSessionArgs) : List String :=
  ["--socket", context.sessionSocket (args.endpointId context), "--cwd", args.cwd,
    "--agent", args.agent] ++
  (match args.channel with
    | none => []
    | some channel => ["--channel", channel]) ++
  (match args.sessionName with
    | none => []
    | some sessionName => ["--session-name", sessionName]) ++
  (if args.ephemeral then ["--ephemeral"] else []) ++ ["--"] ++ args.command

/-- The arguments of the supervisor that `spawn_session` starts. -/
def spawnSession (context : SpawnContext) (args : SpawnSessionArgs) :
    Except String (List String) :=
  if args.command.isEmpty then .error "pty launch command must not be empty"
  else .ok ([context.currentExe, "__pty-supervisor", "--id", args.endpointId context,
    "--instance-token", context.uniqueToken] ++ trailingArgs context args)

/-- The command line as `ps` prints it. -/
def commandLine (argv : List String) : String :=
  " ".intercalate argv

/-! ## The ownership check -/

section Check

variable (split : String → Option (List String))

/-- The value behind the first occurrence of an option. -/
def exactOption (argv : List String) (option : String) : Option String :=
  ((argv.zip argv.tail).find? (fun pair => pair.1 = option)).map Prod.snd

def commandOwnsEndpoint (command endpointId instanceToken : String) : Bool :=
  if endpointId = "" || instanceToken = "" then false
  else match split (Rust.trim command) with
    | none => false
    | some argv =>
        if argv[1]? ≠ some "__pty-supervisor" then false
        else
          let supervisorArgs := argv.drop 2
          let supervisorOptions := supervisorArgs.takeWhile (· ≠ "--")
          exactOption supervisorOptions "--id" = some endpointId &&
            exactOption supervisorOptions "--instance-token" = some instanceToken

end Check

/-! ## Options -/

theorem exactOption_cons {first second option : String} (rest : List String)
    (hne : first ≠ option) :
    exactOption (first :: second :: rest) option = exactOption (second :: rest) option := by
  simp [exactOption, hne]

theorem exactOption_head (option value : String) (rest : List String) :
    exactOption (option :: value :: rest) option = some value := by
  simp [exactOption]

/-- The value of an option that stands first, if the options do not end behind it. -/
theorem exactOption_takeWhile_iff {option value : String} (hoption : option ≠ "--")
    (words : List String) :
    exactOption ((option :: words).takeWhile (· ≠ "--")) option = some value ↔
      words.head? = some value ∧ value ≠ "--" := by
  rw [List.takeWhile_cons_of_pos (by simpa using hoption)]
  cases words with
  | nil => simp [exactOption]
  | cons word words =>
      by_cases hword : word = "--"
      · rw [List.takeWhile_cons_of_neg (by simpa using hword), List.head?_cons, hword]
        constructor
        · intro hnone
          cases hnone
        · rintro ⟨heq, hne⟩
          exact absurd (Option.some.inj heq).symm hne
      · rw [List.takeWhile_cons_of_pos (by simpa using hword), exactOption_head, List.head?_cons]
        constructor
        · intro heq
          exact ⟨heq, Option.some.inj heq ▸ hword⟩
        · exact And.left

/-! ## The text of a command line -/

theorem toList_commandLine_cons (first second : String) (rest : List String) :
    (commandLine (first :: second :: rest)).toList =
      first.toList ++ ' ' :: (commandLine (second :: rest)).toList := by
  rw [commandLine, String.intercalate_cons_cons, String.toList_append, String.toList_append,
    List.append_assoc]
  rfl

theorem rdropWhile_spaced {p : Char → Bool} (front : List Char) {back : List Char} {c : Char}
    (hc : c ∈ back) (hp : p c = false) :
    (front ++ ' ' :: back).rdropWhile p = front ++ ' ' :: back.rdropWhile p := by
  have hne : (back.reverse.dropWhile p).isEmpty = false := by
    rw [List.isEmpty_eq_false_iff]
    intro hnil
    have hall := List.dropWhile_eq_nil_iff.mp hnil c (List.mem_reverse.mpr hc)
    exact absurd (hp.symm.trans hall) (by decide)
  rw [List.append_cons, List.rdropWhile, List.rdropWhile, List.reverse_append, List.dropWhile_append,
    hne]
  simp

/-- An executable whose path is one plain word. -/
structure PlainPath (path : String) : Prop where
  plain : Shell.Plain path.toList
  trimmed : Rust.trim path = path

/-- The arguments behind the instance token as the splitter sees them. -/
def trailingLine (context : SpawnContext) (args : SpawnSessionArgs) : String :=
  Rust.trim (commandLine (trailingArgs context args))

theorem exists_trailingArgs (context : SpawnContext) (args : SpawnSessionArgs) :
    ∃ rest, trailingArgs context args =
      "--socket" :: context.sessionSocket (args.endpointId context) :: "--cwd" :: args.cwd ::
        rest :=
  ⟨_, rfl⟩

/-- The trailing arguments begin with an option, and something stands behind it. -/
theorem exists_toList_trailingArgs (context : SpawnContext) (args : SpawnSessionArgs) :
    ∃ tail, (commandLine (trailingArgs context args)).toList =
      "--socket".toList ++ ' ' :: tail ∧ '-' ∈ tail := by
  obtain ⟨rest, hrest⟩ := exists_trailingArgs context args
  rw [hrest, toList_commandLine_cons]
  refine ⟨_, rfl, ?_⟩
  rw [toList_commandLine_cons, toList_commandLine_cons]
  simp

theorem toList_trailingLine (context : SpawnContext) (args : SpawnSessionArgs) :
    (trailingLine context args).toList =
      (commandLine (trailingArgs context args)).toList.rdropWhile Rust.isWhitespace := by
  obtain ⟨tail, htail, -⟩ := exists_toList_trailingArgs context args
  rw [trailingLine, Rust.toList_trim, htail]
  rfl

theorem exists_toList_trailingLine (context : SpawnContext) (args : SpawnSessionArgs) :
    ∃ tail, (trailingLine context args).toList = "--socket".toList ++ ' ' :: tail := by
  obtain ⟨tail, htail, hdash⟩ := exists_toList_trailingArgs context args
  rw [toList_trailingLine, htail, rdropWhile_spaced _ hdash (by decide)]
  exact ⟨_, rfl⟩

/-- The command line as the splitter sees it. -/
theorem toList_trim_commandLine {context : SpawnContext} (hpath : PlainPath context.currentExe)
    {args : SpawnSessionArgs} {argv : List String} (hspawn : spawnSession context args = .ok argv) :
    (Rust.trim (commandLine argv)).toList =
      context.currentExe.toList ++ ' ' :: ("__pty-supervisor".toList ++ ' ' ::
        ("--id".toList ++ ' ' :: ((args.endpointId context).toList ++ ' ' ::
          ("--instance-token".toList ++ ' ' :: (context.uniqueToken.toList ++ ' ' ::
            (trailingLine context args).toList))))) := by
  have hargv : argv = context.currentExe :: "__pty-supervisor" :: "--id" ::
      args.endpointId context :: "--instance-token" :: context.uniqueToken ::
        trailingArgs context args := by
    rw [spawnSession] at hspawn
    split at hspawn
    · cases hspawn
    · exact (Except.ok.inj hspawn).symm
  obtain ⟨rest, hrest⟩ := exists_trailingArgs context args
  obtain ⟨tail, htail, hdash⟩ := exists_toList_trailingArgs context args
  have hline : '-' ∈ (commandLine (trailingArgs context args)).toList := by
    rw [htail]
    exact List.mem_append_right _ (List.mem_cons_of_mem _ hdash)
  have hfront : ∀ rest, (context.currentExe.toList ++ rest).dropWhile Rust.isWhitespace =
      context.currentExe.toList ++ rest := by
    intro rest
    have hhead := (Rust.trim_eq_self_iff.mp hpath.trimmed).1
    cases hchars : context.currentExe.toList with
    | nil => exact absurd hchars hpath.plain.ne_nil
    | cons c chars =>
        rw [hchars] at hhead
        rw [List.cons_append, List.dropWhile_cons_of_neg (by simp [hhead c rfl])]
  have htoken : (commandLine (context.uniqueToken :: trailingArgs context args)).toList =
      context.uniqueToken.toList ++ ' ' :: (commandLine (trailingArgs context args)).toList := by
    rw [hrest, toList_commandLine_cons]
  rw [toList_trailingLine, Rust.toList_trim, hargv, toList_commandLine_cons,
    toList_commandLine_cons, toList_commandLine_cons, toList_commandLine_cons,
    toList_commandLine_cons, htoken, hfront]
  -- The dash of the first trailing option stops the trimming in every part.
  have hdash : Rust.isWhitespace '-' = false := by decide
  iterate 6 rw [rdropWhile_spaced _ (by simp [hline]) hdash]

/-! ## What the check sees -/

theorem plain_subcommand : Shell.Plain "__pty-supervisor".toList := by decide +kernel

theorem plain_id : Shell.Plain "--id".toList := by decide

theorem plain_instanceToken : Shell.Plain "--instance-token".toList := by decide +kernel

theorem plain_socket : Shell.Plain "--socket".toList := by decide

section Ownership

variable {split : String → Option (List String)} (hposix : ∀ text, split text = Shell.split text)
  {context : SpawnContext} (hpath : PlainPath context.currentExe) {args : SpawnSessionArgs}
  {argv : List String} (hspawn : spawnSession context args = .ok argv)

/-- The words behind the option for the endpoint id. -/
def idWords (context : SpawnContext) (args : SpawnSessionArgs) : Option (List String) :=
  (Shell.words ((args.endpointId context).toList ++ ' ' :: ("--instance-token".toList ++ ' ' ::
    (context.uniqueToken.toList ++ ' ' :: (trailingLine context args).toList)))).map
      (List.map String.ofList)

include hposix hpath hspawn in
theorem split_trim_commandLine :
    split (Rust.trim (commandLine argv)) =
      (idWords context args).map
        (fun words => context.currentExe :: "__pty-supervisor" :: "--id" :: words) := by
  rw [hposix, Shell.split, toList_trim_commandLine hpath hspawn,
    Shell.words_plain_append hpath.plain, Shell.words_plain_append plain_subcommand,
    Shell.words_plain_append plain_id, idWords]
  simp [Function.comp_def]

include hposix hpath hspawn in
theorem commandOwnsEndpoint_iff {endpointId instanceToken : String} :
    commandOwnsEndpoint split (commandLine argv) endpointId instanceToken = true ↔
      endpointId ≠ "" ∧ instanceToken ≠ "" ∧ ∃ words, idWords context args = some words ∧
        words.head? = some endpointId ∧ endpointId ≠ "--" ∧
        exactOption (("--id" :: words).takeWhile (· ≠ "--")) "--instance-token" =
          some instanceToken := by
  rw [commandOwnsEndpoint, split_trim_commandLine hposix hpath hspawn]
  by_cases hid : endpointId = ""
  · simp [hid]
  · by_cases htoken : instanceToken = ""
    · simp [htoken]
    · cases hwords : idWords context args with
      | none => simp [hid, htoken]
      | some words =>
          have hoption := @exactOption_takeWhile_iff "--id" endpointId (by decide) words
          rw [if_neg (by simp [hid, htoken])]
          simp only [Option.map_some, List.getElem?_cons_succ, List.getElem?_cons_zero, ne_eq,
            not_true_eq_false, if_false, List.drop_succ_cons, List.drop_zero, Bool.and_eq_true,
            decide_eq_true_eq, Option.some.injEq, exists_eq_left']
          rw [hoption]
          simp [hid, htoken, and_assoc]

/-- The condition under which a supervisor is recognised: its executable, its endpoint id and its
instance token are plain words, none of the two is the end of the options, no option is hidden
behind an id of that name, and the arguments behind them leave no quote open. -/
structure ReadsBack (split : String → Option (List String)) (context : SpawnContext)
    (args : SpawnSessionArgs) : Prop where
  executable : PlainPath context.currentExe
  endpointId : Shell.Plain (args.endpointId context).toList
  instanceToken : Shell.Plain context.uniqueToken.toList
  endpointId_ne : args.endpointId context ≠ "--"
  instanceToken_ne : context.uniqueToken ≠ "--"
  order : args.endpointId context = "--instance-token" →
    context.uniqueToken = "--instance-token"
  trailing : (split (trailingLine context args)).isSome

/-- The check grants exactly the endpoint and the token that the supervisor was started with. -/
def OwnedExactly (split : String → Option (List String)) (context : SpawnContext)
    (args : SpawnSessionArgs) (argv : List String) : Prop :=
  ∀ endpointId instanceToken,
    commandOwnsEndpoint split (commandLine argv) endpointId instanceToken = true ↔
      endpointId = args.endpointId context ∧ instanceToken = context.uniqueToken

/-- The words behind an id that is a plain word. -/
theorem idWords_plain (hid : Shell.Plain (args.endpointId context).toList) :
    idWords context args =
      (Shell.words (context.uniqueToken.toList ++ ' ' :: (trailingLine context args).toList)).map
        (fun words => args.endpointId context :: "--instance-token" ::
          words.map String.ofList) := by
  rw [idWords, Shell.words_plain_append hid, Shell.words_plain_append plain_instanceToken]
  simp [Function.comp_def]

theorem exactOption_instanceToken_iff {endpointId token : String} (words : List String)
    (hne : endpointId ≠ "--") :
    exactOption (("--id" :: endpointId :: "--instance-token" :: words).takeWhile (· ≠ "--"))
        "--instance-token" = some token ↔
      (endpointId = "--instance-token" ∧ token = "--instance-token") ∨
        (endpointId ≠ "--instance-token" ∧ words.head? = some token ∧ token ≠ "--") := by
  rw [List.takeWhile_cons_of_pos (by decide), List.takeWhile_cons_of_pos (by simpa using hne),
    exactOption_cons _ (by decide)]
  by_cases horder : endpointId = "--instance-token"
  · subst endpointId
    rw [List.takeWhile_cons_of_pos (by decide), exactOption_head]
    simp [eq_comm]
  · have hoption := @exactOption_takeWhile_iff "--instance-token" token (by decide) words
    rw [List.takeWhile_cons_of_pos (by decide), exactOption_cons _ horder,
      ← List.takeWhile_cons_of_pos (p := (· ≠ "--")) (by decide), hoption]
    simp [horder]

/-- The id or the token begins with a comment, and a line ends somewhere in the command line. -/
def CommentEnds (context : SpawnContext) (args : SpawnSessionArgs) (argv : List String) : Prop :=
  (Shell.OpensComment (args.endpointId context).toList ∨
      Shell.OpensComment context.uniqueToken.toList) ∧
    '\n' ∈ (commandLine argv).toList

include hposix hspawn in
theorem ownedExactly_of_readsBack (hreads : ReadsBack split context args) :
    OwnedExactly split context args argv := by
  intro endpointId instanceToken
  obtain ⟨trailing, htrailing⟩ := Option.isSome_iff_exists.mp hreads.trailing
  rw [hposix, Shell.split] at htrailing
  obtain ⟨words, hwords, -⟩ := Option.map_eq_some_iff.mp htrailing
  have hidWords : idWords context args = some (args.endpointId context :: "--instance-token" ::
      context.uniqueToken :: words.map String.ofList) := by
    rw [idWords_plain hreads.endpointId, Shell.words_plain_append hreads.instanceToken, hwords]
    simp
  rw [commandOwnsEndpoint_iff hposix hreads.executable hspawn]
  constructor
  · rintro ⟨-, -, found, hfound, hhead, hne, htoken⟩
    obtain rfl : _ = found := Option.some.inj (hidWords.symm.trans hfound)
    obtain rfl := Option.some.inj hhead
    rw [exactOption_instanceToken_iff _ hne] at htoken
    rcases htoken with ⟨horder, rfl⟩ | ⟨-, hhead, -⟩
    · exact ⟨rfl, (hreads.order horder).symm⟩
    · exact ⟨rfl, (Option.some.inj hhead).symm⟩
  · rintro ⟨rfl, rfl⟩
    have hid : args.endpointId context ≠ "" := fun hempty =>
      hreads.endpointId.ne_nil (by rw [hempty]; rfl)
    have htoken : context.uniqueToken ≠ "" := fun hempty =>
      hreads.instanceToken.ne_nil (by rw [hempty]; rfl)
    refine ⟨hid, htoken, _, hidWords, rfl, hreads.endpointId_ne, ?_⟩
    rw [exactOption_instanceToken_iff _ hreads.endpointId_ne]
    by_cases horder : args.endpointId context = "--instance-token"
    · exact .inl ⟨horder, hreads.order horder⟩
    · exact .inr ⟨horder, rfl, hreads.instanceToken_ne⟩

/-- A word that is read as a text has the characters of that text. -/
theorem exists_of_head {words : Option (List (List Char))} {found : List String} {text : String}
    (hwords : words.map (List.map String.ofList) = some found) (hhead : found.head? = some text) :
    ∃ rest, words = some (text.toList :: rest) := by
  obtain ⟨chars, rfl, rfl⟩ := Option.map_eq_some_iff.mp hwords
  cases chars with
  | nil => cases hhead
  | cons word rest =>
      obtain rfl := Option.some.inj hhead
      exact ⟨rest, by rw [String.toList_ofList]⟩

theorem mem_behind {c : Char} (front : List Char) {back : List Char} (hc : c ∈ back) :
    c ∈ front ++ ' ' :: back :=
  List.mem_append_right front (List.mem_cons_of_mem ' ' hc)

include hpath hspawn in
theorem mem_commandLine {c : Char} (hc : c ∈ (args.endpointId context).toList ++ ' ' ::
    ("--instance-token".toList ++ ' ' :: (context.uniqueToken.toList ++ ' ' ::
      (trailingLine context args).toList))) : c ∈ (commandLine argv).toList := by
  have htrim : c ∈ (Rust.trim (commandLine argv)).toList := by
    rw [toList_trim_commandLine hpath hspawn]
    exact mem_behind _ (mem_behind _ (mem_behind _ hc))
  rw [Rust.toList_trim] at htrim
  exact (List.dropWhile_sublist _).mem ((List.rdropWhile_prefix _ _).mem htrim)

include hposix hpath hspawn in
theorem readsBack_of_ownedExactly (hcomment : ¬ CommentEnds context args argv)
    (howned : OwnedExactly split context args argv) : ReadsBack split context args := by
  have hself := (howned _ _).mpr ⟨rfl, rfl⟩
  rw [commandOwnsEndpoint_iff hposix hpath hspawn] at hself
  obtain ⟨-, -, words, hwords, hhead, hne, htoken⟩ := hself
  obtain ⟨tail, htail⟩ := exists_toList_trailingLine context args
  have hid : Shell.Plain (args.endpointId context).toList := by
    obtain ⟨rest, hrest⟩ := exists_of_head hwords hhead
    refine Shell.plain_of_words_of_line plain_instanceToken (fun hopens hline => ?_) hrest
    exact hcomment ⟨.inl hopens, mem_commandLine hpath hspawn hline⟩
  rw [idWords_plain hid] at hwords
  obtain ⟨behind, hbehind, rfl⟩ := Option.map_eq_some_iff.mp hwords
  rw [exactOption_instanceToken_iff _ hne] at htoken
  have hplain : Shell.Plain context.uniqueToken.toList := by
    rcases htoken with ⟨-, htoken⟩ | ⟨-, hhead, -⟩
    · rw [htoken]
      exact plain_instanceToken
    · obtain ⟨rest, hrest⟩ := exists_of_head (congrArg (Option.map _) hbehind) hhead
      rw [htail] at hrest
      refine Shell.plain_of_words_of_line plain_socket (fun hopens hline => ?_) hrest
      refine hcomment ⟨.inr hopens, mem_commandLine hpath hspawn ?_⟩
      rw [htail]
      exact mem_behind _ (mem_behind _ hline)
  rw [Shell.words_plain_append hplain] at hbehind
  obtain ⟨trailing, htrailing, -⟩ := Option.map_eq_some_iff.mp hbehind
  constructor
  · exact hpath
  · exact hid
  · exact hplain
  · exact hne
  · rcases htoken with ⟨-, htoken⟩ | ⟨-, -, htoken⟩
    · rw [htoken]
      decide
    · exact htoken
  · intro horder
    rcases htoken with ⟨-, htoken⟩ | ⟨hother, -, -⟩
    · exact htoken
    · exact absurd horder hother
  · rw [hposix, Shell.split, htrailing]
    rfl

include hposix hspawn in
/-- A supervisor whose command line reads back is recognised by its endpoint id and its token and
by nothing else.  No other supervisor is, unless the id or the token opens a comment that ends
within the command line: then the words are read from whatever stands behind that line. -/
theorem ownedExactly_readsBack :
    (ReadsBack split context args → OwnedExactly split context args argv) ∧
    (PlainPath context.currentExe → ¬ CommentEnds context args argv →
      OwnedExactly split context args argv → ReadsBack split context args) :=
  ⟨ownedExactly_of_readsBack hposix hspawn,
    fun hpath hcomment howned => readsBack_of_ownedExactly hposix hpath hspawn hcomment howned⟩

end Ownership

/-! ## Launches of one endpoint -/

def exampleContext : SpawnContext where
  currentExe := "/bin/m"
  newEndpointId := fun agent => agent ++ "-1"
  uniqueToken := "9f"
  sessionSocket := fun id => "/tmp/" ++ id ++ ".sock"

def exampleArgs (id cwd : String) (command : List String) : SpawnSessionArgs where
  id := some id
  agent := "g"
  cwd := cwd
  channel := none
  sessionName := none
  ephemeral := false
  command := command

theorem ownedExactly_echo :
    OwnedExactly Shell.split exampleContext (exampleArgs "g-1" "/w" ["echo", "hi"])
      ["/bin/m", "__pty-supervisor", "--id", "g-1", "--instance-token", "9f", "--socket",
        "/tmp/g-1.sock", "--cwd", "/w", "--agent", "g", "--", "echo", "hi"] :=
  (ownedExactly_readsBack (fun _ => rfl) (by decide +kernel)).1
    { executable := ⟨by decide +kernel, by decide +kernel⟩
      endpointId := by decide +kernel
      instanceToken := by decide +kernel
      endpointId_ne := by decide
      instanceToken_ne := by decide
      order := by decide
      trailing := by decide +kernel }

/-- An apostrophe in the command of the child opens a quote that nothing closes. -/
theorem not_ownedExactly_apostrophe :
    ∃ argv, spawnSession exampleContext (exampleArgs "g-1" "/w" ["echo", "it's"]) = .ok argv ∧
      ¬ OwnedExactly Shell.split exampleContext (exampleArgs "g-1" "/w" ["echo", "it's"]) argv := by
  refine ⟨_, rfl, fun howned => ?_⟩
  have hself := (howned "g-1" "9f").mpr ⟨rfl, rfl⟩
  exact absurd hself (by decide +kernel)

/-- An id that opens a comment is found where the working directory spells it out. -/
example : commandOwnsEndpoint Shell.split (commandLine ["/bin/m", "__pty-supervisor", "--id", "#1",
    "--instance-token", "9f", "--cwd", "\n\\#1 --instance-token 9f"]) "#1" "9f" = true := by
  decide +kernel

end Mosaico.Ownership
