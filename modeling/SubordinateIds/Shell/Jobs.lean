import SubordinateIds.Shell.Arguments

/-
  Jobs — signals, what is to be done on them, and programs that were left running

  A signal without an action ends a program, does nothing or is turned off. What is to be
  done on one is done between two commands. A program that was left running has a place,
  by which it may be called, until its end was told.
-/

namespace SubordinateIds.Shell

namespace State

/-- The signal that is there for the program, the lowest number first. -/
def due? (st : State) : Option Nat :=
  ((st.notices.filter fun n => n.target == st.number && n.time ≤ st.now).map (·.signal)).min?

/-- The job with a number, unless it is gone. -/
def job? (st : State) (number : Nat) : Option Job := st.jobs.find? (·.number == number)

/-- The state with a job changed. -/
def withJob (st : State) (number : Nat) (change : Job → Job) : State :=
  { st with jobs := st.jobs.map fun job => if job.number = number then change job else job }

/-- The state with a place for one more program, which is given to a job or is free
afterwards. The place of a job whose status was told may be taken. -/
def withSlot (st : State) (job : Option Nat) : State :=
  let isFree (slot : Option Nat) : Bool :=
    match slot with
    | none => true
    | some number => (st.job? number).all (·.told)
  let used := st.slots.takeWhile (!isFree ·)
  { st with slots := used ++ job :: st.slots.drop (used.length + 1) }

/-- The state after the jobs that have ended by now were seen to do so. -/
def seeingEnds (st : State) : State :=
  { st with jobs := st.jobs.map fun job =>
      if job.ending ≤ st.now && st.slots.elem (some job.number) then { job with seen := true }
      else job }

/-- The state in which the end of another program is known, by a signal when it comes. -/
def hearing (st : State) (number time : Nat) : State :=
  { st with notices := st.notices ++ [⟨time, number, st.number, Signal.childEnded⟩] }

/-- The state in which a job ends by a signal, with another status and at another time.
What it would do afterwards does not happen. -/
def cutShort (st : State) (number status time : Nat) : State :=
  let notices := st.notices.filterMap fun notice =>
    if notice.sender != number || notice.time ≤ time then some notice
    else if notice.signal = Signal.childEnded then some { notice with time }
    else none
  { st.withJob number fun job => { job with status, ending := time } with notices }

end State

namespace Builtin

/-- The number of a signal in an action, where the end of the shell is one, too. -/
def actionNumber? (text : String) : Option Nat :=
  if text.toUpper = "EXIT" then some 0 else Signal.number? text

/-- Sets what to do on signals. A signal that is unknown is passed over with a bad
status, and so are those after it. -/
def setActions (action : Option String) : List String → Run Unit
  | [] => leaveStatus 0
  | word :: rest =>
    match actionNumber? word with
    | none => leaveStatus 1
    | some signal => do
      modify fun st =>
        let others := st.actions.filter (·.1 != signal)
        { st with actions := (action.map fun text => (signal, text)).toList ++ others }
      setActions action rest

/-- The name of a signal in an action. -/
def actionName (signal : Nat) : String := if signal = 0 then "EXIT" else Signal.name signal

/-- Sets or shows what to do on signals. -/
def trap (words : List String) : Run Unit := do
  let (_, words) ← options [] words
  match words with
  | [] =>
    let shown := (← get).actions.mergeSort fun a b => a.1 ≤ b.1
    say (String.join (shown.map fun e =>
      "trap -- " ++ quote e.2 ++ " " ++ actionName e.1 ++ "\n")) 0
  | [word] => setActions none [word]
  | word :: rest =>
    if !word.isEmpty && word.toList.all Char.isDigit && (Signal.number? word).isSome then
      setActions none words
    else setActions (if word = "-" then none else some word) rest

/-- Leaves a notice of a signal for a program. -/
def notify (target n : Nat) : Run Unit :=
  modify fun st => { st with notices := st.notices ++ [⟨st.now, st.number, target, n⟩] }

/-- Sends a signal to a program. Whether there is one with the number is given back. A
program that is left running ends by it if its time had not come and it has nothing else
to do on it. -/
def signal (n target : Nat) : Run Bool := do
  let st ← get
  if target = st.number then
    if Signal.isDeadly st.actions st.ignored n then throw (.killed target n)
    if !Signal.isLost st.actions st.ignored n then notify target n
    return true
  else if let some caller := st.callers.find? (·.number == target) then
    if caller.waits && Signal.isDeadly caller.actions caller.ignored n then
      throw (.killed target n)
    if !Signal.isLost caller.actions caller.ignored n then notify target n
    return true
  else if let some job := st.job? target then
    if job.seen then return false
    if st.now < job.ending then
      let ignored := if st.now < job.ready then Signal.reserved else job.ignored
      match job.answer? n st.now with
      | some answer => answer.ending.forM fun e => set (st.cutShort target e.1 e.2)
      | none => if Signal.isDeadly [] ignored n then set (st.cutShort target (128 + n) st.now)
    return true
  else return target = st.parent && n = 0

/-- The place of a program that was left running, by the words for it. -/
def slot? (st : State) (word : String) : Option Nat :=
  let used := st.slots.reverse.filterMap id
  match (word.toList.drop 1) with
  | [] | ['%'] | ['+'] => st.lastJob.filter used.elem
  | ['-'] => (used.filter fun number => st.lastJob != some number).head?
  | cs =>
    if cs.all Char.isDigit then do
      let n := digitsValue 10 cs
      if n = 0 then none else (← st.slots[n - 1]?)
    else none

/-- A line about the job at a place: what it is at now, which one it is, and its number if
that is asked for. -/
def jobLine (st : State) (long : Bool) (place : Nat) (job : Job) : String :=
  let used := st.slots.reverse.filterMap id
  let others := used.filter fun number => st.lastJob != some number
  let mark := if st.lastJob = some job.number then "+"
    else if others.head? = some job.number then "-" else " "
  let number := if long then toString job.number ++ " " else ""
  let condition := if st.now < job.ending then "Running"
    else if job.status = 0 then "Done" else "Done(" ++ toString job.status ++ ")"
  let line := "[" ++ toString (place + 1) ++ "] " ++ mark ++ " " ++ number ++ condition
  line ++ String.ofList (List.replicate (33 - line.length) ' ') ++ "\n"

/-- Shows a job, whose place is free afterwards if it has ended. -/
def showJob (letters : List Char) (number : Nat) : Run Unit := do
  let st ← get
  if let some job := st.job? number then
    let line := if letters.elem 'p' then toString number ++ "\n"
      else jobLine st (letters.elem 'l') (st.slots.idxOf (some number)) job
    if job.ending ≤ st.now then
      set { st with slots := st.slots.map fun slot => if slot = some number then none else slot }
    say line (← get).status

/-- Shows the programs that were left running, those of later places first. -/
def showJobs (words : List String) : Run Unit := do
  let (letters, words) ← options ['l', 'p'] words
  leaveStatus 0
  if words.isEmpty then (← get).slots.reverse.forM fun slot => slot.forM (showJob letters)
  else
    for word in words do
      let st ← get
      match if word.startsWith "%" then slot? st word else none with
      | some number => showJob letters number
      | none => fault

/-- Sends a signal to a target, if that is one. Whether it was there is given back. A
number after a dash stands for a group of programs, of which there are only the one of
them all and the one of all that run here. -/
def reach (n : Nat) (target : String) : Run Bool := do
  let st ← get
  match target.toList with
  | '%' :: _ => if (slot? st target).isSome then return false else fault
  | '-' :: cs =>
    match count? (String.ofList cs) with
    | none => fault
    | some 0 | some 1 => signal n st.number
    | some _ => return false
  | _ =>
    match count? target with
    | none => fault
    | some 0 => signal n st.number
    | some process => signal n process

/-- Does what the words after `kill` ask for. Targets are reached one after the other,
and each of them has to be there. -/
def kill (words : List String) : Run Unit :=
  match KillRequest.read? words with
  | some .list =>
    let names := (List.range Signal.last).map fun n => Signal.name (n + 1) ++ "\n"
    say ("0\n" ++ String.join names) 0
  | some (.nameOf word) => do
    let n ← demandCount word
    let signal := if n > 128 then n - 128 else n
    if signal = 0 || signal > Signal.last then fault
    say (Signal.name signal ++ "\n") 0
  | some (.send n targets) => do
    let mut status := 0
    for target in targets do
      if !(← reach n target) then status := 1
    leaveStatus status
  | none => fault

/-- Waits for a time, unless a signal comes before that does anything. Whether one did
is given back, with the status then. The end of a program at that very time is no such
signal. -/
def waitUntil (time : Nat) : Run (Option Nat) := do
  let st ← get
  let coming := st.notices.filter fun n =>
    n.target == st.number && n.time ≤ time &&
      (n.time < time || n.signal != Signal.childEnded) &&
      !Signal.isLost st.actions st.ignored n.signal &&
      ((st.actions.lookup n.signal).isSome || Signal.isDeadly st.actions st.ignored n.signal)
  match (coming.mergeSort fun a b => a.time ≤ b.time).head? with
  | some notice =>
    set { st with now := max st.now notice.time }
    return some (128 + notice.signal)
  | none =>
    set ({ st with now := max st.now time }.seeingEnds)
    return none

/-- Waits for programs that were left running, all of them or some. -/
def wait (words : List String) : Run Unit := do
  let (_, words) ← options [] words
  let st ← get
  if words.isEmpty then
    let own := st.jobs.filter fun job => st.slots.elem (some job.number)
    match ← waitUntil (own.foldl (fun time job => max time job.ending) st.now) with
    | some status => leaveStatus status
    | none =>
      own.forM fun job => modify (·.withJob job.number fun job => { job with told := true })
      leaveStatus 0
  else
    let mut status := 127
    for word in words do
      let st ← get
      let number ← match word.toList with
        | '%' :: _ =>
          match slot? st word with
          | some number => pure number
          | none => fault
        | _ => demandCount word
      if st.slots.elem (some number) then
        if let some job := st.job? number then
          match ← waitUntil job.ending with
          | some interrupted =>
            leaveStatus interrupted
            return
          | none =>
            modify (·.withJob number fun job => { job with told := true })
            status := job.status
    leaveStatus status

end Builtin

end SubordinateIds.Shell
