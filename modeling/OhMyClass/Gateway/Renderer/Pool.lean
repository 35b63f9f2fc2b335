import OhMyClass.Python.Text
import OhMyClass.TeachingPack.ArtifactStatus
import OhMyClass.Transition.Machine

/-!
# Renderer workers

The lines that workers answer, and the pool through which calls share them.
-/

namespace OhMyClass.Renderer

/-!
## Answers of a renderer worker

What the gateway makes of one line of a worker's standard output.
-/

section

open OhMyClass.TeachingPack (strip)

/-- How a call of the pool ends without HTML. -/
inductive RenderError where
  /-- `RendererAdapterError`; `stderr` is `None` where it is `null`. -/
  | adapter (message : String) (exitCode : Option Int) (stderr : Json) (retryable : Bool)
      (rendererCode rendererCategory : Option String)
  /-- An exception that no handler of the pool names. -/
  | other (exception : String)
  | cancelled

/-- An error with the defaults of `RendererAdapterError`. -/
def adapterError (message : String) (exitCode : Option Int) : RenderError :=
  .adapter message exitCode .null true none none

/-- The functions that are not in the pool's own code. -/
structure Library where
  isZero : FloatLiteral → Bool
  printable : Char → Bool
  /-- `_validate_standalone_html`. -/
  validateStandaloneHtml : String → Option String

/-- A line, as `json.loads` reads its bytes. -/
inductive ResponseLine where
  | notUtf8
  | notJson
  | value (response : Json)

variable (library : Library)

def validateRenderedHtml (text : String) (exitCode : Option Int) : Except RenderError String :=
  if strip text.toList = [] then
    .error (adapterError "Renderer subprocess produced invalid output (empty)" exitCode)
  else
    match library.validateStandaloneHtml text with
    | some failure => .error (adapterError ("Renderer produced invalid output: " ++ failure) exitCode)
    | none => .ok text

/-- `str(error.get(key)) if error.get(key) is not None else None`. -/
def errorText (error : JsonObject) (key : String) : Option String :=
  match error.get? key with
  | none | some .null => none
  | some value => some (Python.str library.printable value)

/-- The error of a response that is not ok. -/
def workerError (response : JsonObject) (exitCode : Option Int) : RenderError :=
  let malformed (error : Json) := adapterError
    ("Renderer worker failed with malformed error payload: " ++
      Python.str library.printable error) exitCode
  match (JsonObject.get? response "error").getD (.str "Renderer worker failed") with
  | .obj error =>
    match JsonObject.get? error "message" with
    | some message =>
      .adapter (Python.str library.printable message) exitCode .null
        (Python.truthy library.isZero ((JsonObject.get? error "retryable").getD (.bool false)))
        (errorText library error "code") (errorText library error "category")
    | none => malformed (.obj error)
  | .str message =>
    .adapter message exitCode ((JsonObject.get? response "stderr").getD .null) true none none
  | error => malformed error

def parseWorkerResponse (line : ResponseLine) (exitCode : Option Int) :
    Except RenderError String :=
  match line with
  | .notUtf8 => .error (.other "UnicodeDecodeError")
  | .notJson => .error (adapterError "Renderer worker produced invalid JSON" none)
  | .value (.obj response) =>
    if Python.truthy library.isZero ((JsonObject.get? response "ok").getD (.bool false)) then
      match (JsonObject.get? response "html").getD (.str "") with
      | .str html => validateRenderedHtml library html exitCode
      | _ => .error (.other "AttributeError")
    else
      .error (workerError library response exitCode)
  | .value _ => .error (.other "AttributeError")

end

/-!
## The renderer pool

Calls share long-lived workers.  A worker answers the lines on its input in
their order; a call writes its request and reads one line while it holds the
worker's lock.  Between two awaits of a call every other call and every worker
may take a step.
-/

section

open Transition

structure RendererConfig where
  /-- As an error message prints it. -/
  timeoutSeconds : String
  poolSize : {size : ℕ // 1 ≤ size}
  maxConcurrentRenders : {renders : ℕ // 1 ≤ renders}
  maxRetries : ℕ

abbrev CallId := ℕ

abbrev WorkerId := ℕ

/-- A worker process with its pipes and its lock.  A request, or the answer to
it, is marked with the call that wrote the request. -/
structure RendererWorker where
  returncode : Option Int := none
  lock : Option CallId := none
  /-- The requests it has not answered yet. -/
  stdin : List CallId := []
  /-- The answers that nobody has read yet. -/
  stdout : List (CallId × ResponseLine) := []
  ended_reads_nothing : returncode = none ∨ stdin = [] := by simp

/-- The calls whose requests a reader of the worker still has before it. -/
def RendererWorker.unread (worker : RendererWorker) : List CallId :=
  worker.stdout.map Prod.fst ++ worker.stdin

namespace RendererWorker

def ended (worker : RendererWorker) (code : Int) : RendererWorker :=
  { worker with returncode := some code, stdin := [], ended_reads_nothing := .inr rfl }

/-- A process that has ended reads nothing. -/
def written (worker : RendererWorker) (call : CallId) : RendererWorker where
  returncode := worker.returncode
  lock := some call
  stdin := if worker.returncode = none then worker.stdin ++ [call] else worker.stdin
  stdout := worker.stdout
  ended_reads_nothing := by
    rcases worker.ended_reads_nothing with running | empty
    · exact .inl running
    · by_cases running : worker.returncode = none
      · exact .inl running
      · exact .inr (by rw [if_neg running, empty])

/-- The answer to its first request, if the process still runs. -/
def answered (worker : RendererWorker) (line : ResponseLine) : RendererWorker :=
  match worker.stdin, worker.ended_reads_nothing with
  | [], _ => worker
  | call :: rest, running =>
    { worker with
      stdin := rest
      stdout := worker.stdout ++ [(call, line)]
      ended_reads_nothing := .inl (running.resolve_right (List.cons_ne_nil _ _)) }

end RendererWorker

/-- Where a call waits, with the number of its attempt. -/
inductive Phase where
  | outside
  | waitingForCapacity
  /-- At the pool's lock in `_borrow_worker`. -/
  | borrowing (attempt : ℕ)
  /-- At `start_worker`, with the pool's lock. -/
  | starting (attempt : ℕ)
  | waitingForWorker (attempt : ℕ) (worker : WorkerId)
  /-- At `drain`, with the worker's lock. -/
  | draining (attempt : ℕ) (worker : WorkerId)
  /-- At `readline`, with the worker's lock. -/
  | reading (attempt : ℕ) (worker : WorkerId)
  | readingStderr (attempt : ℕ) (worker : WorkerId)
  /-- At the pool's lock in `_replace_worker`. -/
  | replacing (attempt : ℕ) (worker : WorkerId) (error : RenderError)
  /-- At `process.wait`, with the pool's lock. -/
  | terminating (attempt : ℕ) (worker : WorkerId) (error : RenderError)
  /-- With the HTML of the answer to this call's request. -/
  | returned (answered : CallId) (html : String)
  | raised (tried : ℕ) (error : RenderError)

structure RendererPool where
  workers : List WorkerId := []
  /-- Every process started so far, and those to come. -/
  processes : WorkerId → RendererWorker := fun _ => {}
  started : ℕ := 0
  nextWorker : ℕ := 0
  lock : Option CallId := none
  capacity : ℕ
  phase : CallId → Phase := fun _ => .outside

inductive PipeError where
  /-- `BrokenPipeError` or `ConnectionResetError`. -/
  | broken
  /-- `RuntimeError`. -/
  | closed

def PipeError.toError : PipeError → RenderError
  | .broken => adapterError "Renderer worker pipe failed" none
  | .closed => adapterError "Renderer worker transport closed" none

inductive Event where
  /-- A task calls `_render_request`. -/
  | enter (call : CallId)
  | takeCapacity (call : CallId)
  | takePoolLock (call : CallId)
  | workerStarted (call : CallId)
  | startFailed (call : CallId) (reason : String)
  /-- The worker's lock is taken and the request written. -/
  | takeWorker (call : CallId) (failure : Option PipeError)
  | drained (call : CallId)
  | drainFailed (call : CallId) (failure : PipeError)
  | readLine (call : CallId)
  | readEnd (call : CallId)
  /-- A line beyond the reader's limit; it is dropped, or the rest of it is still
  to come. -/
  | readOverlong (call : CallId) (dropped : Bool)
  | timeOut (call : CallId)
  | readStderr (call : CallId) (stderr : Option String)
  | terminated (call : CallId)
  | cancel (call : CallId)
  | answer (worker : WorkerId) (line : ResponseLine)
  | exit (worker : WorkerId) (code : Int)

namespace RendererPool

def initial (config : RendererConfig) : RendererPool :=
  { capacity := config.maxConcurrentRenders.1 }

def setPhase (pool : RendererPool) (call : CallId) (phase : Phase) : RendererPool :=
  { pool with phase := Function.update pool.phase call phase }

def setProcess (pool : RendererPool) (worker : WorkerId) (process : RendererWorker) :
    RendererPool :=
  { pool with processes := Function.update pool.processes worker process }

def unlock (pool : RendererPool) (worker : WorkerId) : RendererPool :=
  pool.setProcess worker { pool.processes worker with lock := none }

/-- The call leaves `_render_request`. -/
def finish (pool : RendererPool) (call : CallId) (phase : Phase) : RendererPool :=
  { pool with capacity := pool.capacity + 1 }.setPhase call phase

/-- The rest of `_borrow_worker` once the pool is full. -/
def lend (pool : RendererPool) (call : CallId) (attempt : ℕ) : RendererPool :=
  { pool with nextWorker := pool.nextWorker + 1, lock := none }.setPhase call
    (.waitingForWorker attempt
      (pool.workers.getD (pool.nextWorker % pool.workers.length) 0))

/-- The loop of `_borrow_worker`, with the pool's lock. -/
def fill (config : RendererConfig) (pool : RendererPool) (call : CallId) (attempt : ℕ) :
    RendererPool :=
  if pool.workers.length < config.poolSize.1 then
    { pool with lock := some call }.setPhase call (.starting attempt)
  else
    pool.lend call attempt

/-! ## Failures -/

/-- The next attempt, or the end of the loop. -/
def retry (config : RendererConfig) (pool : RendererPool) (call : CallId) (attempt : ℕ)
    (error : RenderError) : RendererPool :=
  if attempt < config.maxRetries then
    pool.setPhase call (.borrowing (attempt + 1))
  else
    pool.finish call (.raised (attempt + 1) error)

/-- What `_render_request` does with an exception of `_render_with_worker`. -/
def fail (pool : RendererPool) (call : CallId) (attempt : ℕ) (worker : WorkerId)
    (error : RenderError) : RendererPool :=
  match error with
  | .adapter _ _ _ true _ _ => pool.setPhase call (.replacing attempt worker error)
  | _ => pool.finish call (.raised (attempt + 1) error)

/-- `_replace_worker`, with the pool's lock; a process that has ended is not
waited for. -/
def terminate (config : RendererConfig) (pool : RendererPool) (call : CallId) (attempt : ℕ)
    (worker : WorkerId) (error : RenderError) : RendererPool :=
  let removed := { pool with workers := pool.workers.erase worker }
  if (pool.processes worker).returncode = none then
    { removed with lock := some call }.setProcess worker ((pool.processes worker).ended (-9))
      |>.setPhase call (.terminating attempt worker error)
  else
    removed.retry config call attempt error

/-! ## Steps -/

/-- The write of `_render_with_worker`. -/
def write (pool : RendererPool) (call : CallId) (attempt : ℕ) (worker : WorkerId) : RendererPool :=
  pool.setProcess worker ((pool.processes worker).written call)
    |>.setPhase call (.draining attempt worker)

/-- The call takes the first line of the worker's output. -/
def takeLine (library : Library) (pool : RendererPool) (call : CallId) (attempt : ℕ)
    (worker : WorkerId) : RendererPool :=
  let process := pool.processes worker
  match process.stdout with
  | [] => pool
  | (answered, line) :: rest =>
    let read := pool.setProcess worker { process with lock := none, stdout := rest }
    match parseWorkerResponse library line process.returncode with
    | .ok html => read.finish call (.returned answered html)
    | .error error => read.fail call attempt worker error

/-- `CancelledError` at the await where the call is. -/
def cancelled (pool : RendererPool) (call : CallId) : RendererPool :=
  match pool.phase call with
  | .outside | .returned _ _ | .raised _ _ => pool
  | .waitingForCapacity => pool.setPhase call (.raised 0 .cancelled)
  | .borrowing attempt | .waitingForWorker attempt _ | .readingStderr attempt _
  | .replacing attempt _ _ => pool.finish call (.raised (attempt + 1) .cancelled)
  | .starting attempt | .terminating attempt _ _ =>
    { pool with lock := none }.finish call (.raised (attempt + 1) .cancelled)
  | .draining attempt worker | .reading attempt worker =>
    (pool.unlock worker).finish call (.raised (attempt + 1) .cancelled)

/-- What an event does; one that cannot happen now changes nothing. -/
def step (library : Library) (config : RendererConfig) (pool : RendererPool) :
    Event → RendererPool
  | .enter call =>
    match pool.phase call with
    | .outside => pool.setPhase call .waitingForCapacity
    | _ => pool
  | .takeCapacity call =>
    match pool.phase call with
    | .waitingForCapacity =>
      if pool.capacity = 0 then pool
      else { pool with capacity := pool.capacity - 1 }.setPhase call (.borrowing 0)
    | _ => pool
  | .takePoolLock call =>
    if pool.lock ≠ none then pool
    else
      match pool.phase call with
      | .borrowing attempt => pool.fill config call attempt
      | .replacing attempt worker error => pool.terminate config call attempt worker error
      | _ => pool
  | .workerStarted call =>
    match pool.phase call with
    | .starting attempt =>
      { pool with
        workers := pool.workers ++ [pool.started]
        started := pool.started + 1 }.fill config call attempt
    | _ => pool
  | .startFailed call reason =>
    match pool.phase call with
    | .starting attempt =>
      { pool with lock := none }.finish call (.raised (attempt + 1)
        (adapterError ("Failed to start renderer worker: " ++ reason) none))
    | _ => pool
  | .takeWorker call failure =>
    match pool.phase call with
    | .waitingForWorker attempt worker =>
      if (pool.processes worker).lock ≠ none then pool
      else
        match failure with
        | some failure => pool.fail call attempt worker failure.toError
        | none => pool.write call attempt worker
    | _ => pool
  | .drained call =>
    match pool.phase call with
    | .draining attempt worker => pool.setPhase call (.reading attempt worker)
    | _ => pool
  | .drainFailed call failure =>
    match pool.phase call with
    | .draining attempt worker => (pool.unlock worker).fail call attempt worker failure.toError
    | _ => pool
  | .readLine call =>
    match pool.phase call with
    | .reading attempt worker => pool.takeLine library call attempt worker
    | _ => pool
  | .readEnd call =>
    match pool.phase call with
    | .reading attempt worker =>
      if (pool.processes worker).stdout = [] ∧ (pool.processes worker).returncode ≠ none then
        (pool.unlock worker).setPhase call (.readingStderr attempt worker)
      else pool
    | _ => pool
  | .readOverlong call dropped =>
    match pool.phase call with
    | .reading attempt worker =>
      let process := pool.processes worker
      (pool.setProcess worker
          { process with
            lock := none
            stdout := if dropped then process.stdout.tail else process.stdout }).fail
        call attempt worker (.other "ValueError")
    | _ => pool
  | .timeOut call =>
    match pool.phase call with
    | .reading attempt worker =>
      (pool.unlock worker).fail call attempt worker
        (adapterError ("Renderer worker timed out after " ++ config.timeoutSeconds ++ "s") none)
    | _ => pool
  | .readStderr call stderr =>
    match pool.phase call with
    | .readingStderr attempt worker =>
      pool.fail call attempt worker
        (.adapter "Renderer worker exited before responding" none
          (stderr.elim .null .str) true none none)
    | _ => pool
  | .terminated call =>
    match pool.phase call with
    | .terminating attempt _ error =>
      { pool with lock := none }.retry config call attempt error
    | _ => pool
  | .cancel call => pool.cancelled call
  | .answer worker line =>
    pool.setProcess worker ((pool.processes worker).answered line)
  | .exit worker code =>
    if (pool.processes worker).returncode = none then
      pool.setProcess worker ((pool.processes worker).ended code)
    else pool

end RendererPool

/-- The calls and the workers of a pool. -/
def rendering (library : Library) (config : RendererConfig) :
    Machine RendererPool Event Unit where
  initial pool := pool = .initial config
  step pool event := (pool.step library config event, ())

end

end OhMyClass.Renderer
