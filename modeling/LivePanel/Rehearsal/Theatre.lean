import LivePanel.Orchestra.Errand
import LivePanel.Rehearsal.Source
import LivePanel.Rehearsal.Stage
import LivePanel.Template.Analysis

/-!
# The theatre

A rehearsal of an orchestra. Cues are given one after the other; each of them is an act,
which goes on until it has to wait. Beside the acts of the cues there are jobs, acts that
nobody waits for. There is one clock, which stands still while any act can go on and then
jumps to the next moment for which one waits.

The act of the cue goes first whenever it was called. Then the jobs take their turns in
the order in which they were called, until none is left. Whoever waits for a moment, a
flight, a token or a job is called when it comes, in the order in which they began to
wait.
-/

namespace LivePanel.Rehearsal

open LivePanel.Orchestra

/-- What a cue comes to. -/
inductive Reply where
  | nothing
  | abandoned
  | flag (b : Bool)
  | count (n : Nat)
  | outcome (r : Outcome)
  | cached (b : Option Built)
  | status (s : Status)
  | validation (v : Build.Validation)
  | analysis (a : Template.Analysis)
  | written (r : Except State.WriteError Unit)
  | state (s : State.Store)
  | closed (shutDown : Bool) (listeners : Nat)
  | several (rs : List Reply)

/-- A cue in one piece. -/
inductive Deed where
  | write (key : String) (content : ByteArray) (e : ScriptEntry) (modified : Nat)
  | remove (key : String)
  | errand (t : Errand)
  | loadText (key text : String) (bound : Bool)
  | dispatch (key action : String) (cancelled : Bool) (cancelAfter : Option Nat)
  | cached (key : String)
  | invalidate (key : String)
  | clearCache
  | status
  | validate (text : String)
  | analyze (text : String)
  | setState (path : String) (v : Value)
  | replaceState (v : Value)
  | state
  | fire (event : String)
  | subscriptions (event : String)
  | queueReply (r : Except BridgeError Value)
  | sleep (ms : Nat)
  | shutDown
  | await (name : String)

/-- What a rehearsal is told to do: a deed, cues beside one another, a cue that is let go after some
time, or a cue for a job, which is given a name. -/
inductive Cue where
  | deed (d : Deed)
  | parallel (cues : List Cue)
  | abandon (ms : Nat) (cue : Cue)
  | spawn (name : String) (cue : Cue)

instance : Inhabited Cue := ⟨.parallel []⟩

/-- What an act of an errand waits for at a pause, beside what it may be called for: the time at
which it goes on, and the read that it has begun. -/
structure Pause where
  until_ : Nat
  reading : Option Reading := none

/-- What is left of a cue. -/
inductive Act where
  | cue (c : Cue)
  | errand (t : Errand) (pause : Option Pause)
  | asleep (until_ : Nat) (reply : Reply)
  | cancelling (ms : Nat) (until_ : Option Nat) (token : Nat)
  | awaiting (job : Nat)
  | limited (until_ : Nat) (a : Act)
  | several (acts : List Act)
  | done (r : Reply)

/-- What an act may wait for. -/
inductive Wait where
  | moment (t : Nat)
  | flight (id : Nat)
  | token (id : Option Nat)
  | job (id : Nat)
deriving DecidableEq

/-- A rehearsal under way. A wait is noted with the job that waits, and `none` for the act of the
cue. Only directories that are there can be watched. -/
structure Theatre where
  orchestra : Orchestra Stage
  source : Source
  now : Nat := 0
  waits : List (Wait × Option Nat) := []
  jobs : List (Nat × Act) := []
  queue : List Nat := []
  called : Bool := false
  names : Table Nat := []
  nextJob : Nat := 0
  nextToken : Nat := 0
  watchable : List String := []

namespace Theatre

/-- Note that a job, or the act of the cue, waits. -/
def wait (th : Theatre) (who : Option Nat) (w : Wait) : Theatre :=
  { th with waits := th.waits ++ [(w, who)] }

/-- Call a job, or the act of the cue. -/
def call (th : Theatre) : Option Nat → Theatre
  | none => { th with called := true }
  | some job => if job ∈ th.queue then th else { th with queue := th.queue ++ [job] }

/-- Call those who wait for something that has come. -/
def come (th : Theatre) (w : Wait) : Theatre :=
  let (called, waits) := th.waits.partition fun e => e.1 = w
  (called.map (·.2)).foldl call { th with waits := waits }

/-- Change the orchestra. -/
def withOrchestra (th : Theatre) (o : Orchestra Stage) : Theatre := { th with orchestra := o }

/-- The stint of runs begins anew. -/
def rested (th : Theatre) : Theatre := th.withOrchestra { th.orchestra with left := Run.stint }

/-- A clock has been looked at. -/
def spent (th : Theatre) : Theatre :=
  th.withOrchestra { th.orchestra with left := th.orchestra.left - 1 }

/-- Begin a job. -/
def launch (th : Theatre) (a : Act) : Nat × Theatre :=
  let id := th.nextJob
  (id, { th with jobs := th.jobs ++ [(id, a)], queue := th.queue ++ [id], nextJob := id + 1 })

/-- The act of a job. -/
def job? (th : Theatre) (id : Nat) : Option Act := th.jobs.lookup id

/-- Put back the act of a job. -/
def setJob (th : Theatre) (id : Nat) (a : Act) : Theatre :=
  { th with jobs := th.jobs.map fun e => if e.1 = id then (id, a) else e }

/-- Give an errand a signal. -/
def signal (th : Theatre) (t : Errand) (s : Signal) : Errand × Theatre :=
  let o := th.orchestra
  let turn := t.turn s o
  let th := turn.launched.foldl (fun th t => (th.launch (.errand t none)).2)
    { th with orchestra := turn.orchestra }
  let th := (turn.orchestra.landed.take (turn.orchestra.landed.length - o.landed.length)).foldl
    (fun th l => th.come (.flight l.1)) th
  (turn.errand, if turn.orchestra.shutDown && !o.shutDown then th.come (.token none) else th)

/-- What an errand does next: it takes a signal, it waits for some time, or it waits for something
to come; or it pauses, so that others can take their turn. -/
inductive Next where
  | signal (s : Signal)
  | rest
  | pause (l : Latency) (r : Option Reading) (also : List Wait)
  | wait (ws : List Wait)
  | over (r : Outcome)

/-- What an errand does next, and the source after that. -/
def next (th : Theatre) : Errand → Next × Source
  | .comparing .. => (.pause th.source.markLatency none [], th.source)
  | .comparingIn .. => (.pause th.source.markLatency none [], th.source)
  | .marking _ => (.pause th.source.markLatency none [], th.source)
  | .reading f _ =>
    let (l, r, source) := th.source.begin f.key
    (.pause l (some r) [], source)
  | .joining flight _ =>
    (if (th.orchestra.landing? flight).isSome then .signal .go else .wait [.flight flight],
      th.source)
  | .running d =>
    (if th.orchestra.isCancelled d.token then .signal .reply
      else if d.performance.run.isAsking then
        if th.orchestra.left = 0 then .rest else .signal .go
      else
        .pause (latency ((Hosted.bridge th.orchestra.scene.world).replyDelay.getD 0)) none
          [.token d.token],
      th.source)
  | .readying _ => (.pause (some 0) none [], th.source)
  | .done r => (.over r, th.source)
  | _ => (.signal .go, th.source)

/-- The signal that an errand takes after its pause. -/
def afterPause (th : Theatre) (t : Errand) (r : Option Reading) : Signal × Source :=
  match t with
  | .comparing key _ => (.fingerprint (th.source.mark key), th.source)
  | .comparingIn f _ => (.fingerprint (th.source.mark f.key), th.source)
  | .marking f => (.fingerprint (th.source.mark f.key), th.source)
  | .reading .. =>
    match r with
    | some r => th.source.finish r
    | none => (.collapse, th.source)
  | .running _ => (.reply, th.source)
  | .readying dir => (.ready (dir ∈ th.watchable), th.source)
  | _ => (.go, th.source)

/-- How many turns an errand may take without a pause: it begins, it compares, it marks, it reads,
and it is over. -/
def turnsAtOnce : Nat := 8

/-- Go on with an errand until it has to wait. -/
def goOn (who : Option Nat) : Nat → Errand → Theatre → Act × Theatre
  | 0, t, th => (.errand t none, th)
  | fuel + 1, t, th =>
    let (n, source) := th.next t
    let th := { th with source := source }
    match n with
    | .over r => (.done (.outcome r), th)
    | .signal s =>
      let (t, th) := (if t.isJoining then th.spent else th).signal t s
      goOn who fuel t th
    | .wait ws => (.errand t none, ws.foldl (wait · who) th)
    | .rest => (.errand t none, th.call who)
    | .pause none r _ =>
      let (s, source) := th.afterPause t r
      let (t, th) := { th with source := source }.signal t s
      goOn who fuel t th
    | .pause (some d) r also =>
      let until_ := th.now + d
      (.errand t (some ⟨until_, r⟩), (Wait.moment until_ :: also).foldl (wait · who) th)

/-- Go on with an errand that was called at a pause, if what it waits for has come. -/
def resume (who : Option Nat) (t : Errand) (p : Pause) (th : Theatre) : Act × Theatre :=
  let cancelled :=
    match t with
    | .running d => th.orchestra.isCancelled d.token
    | _ => false
  if cancelled || p.until_ ≤ th.now then
    let (s, source) := th.afterPause t p.reading
    let (t, th) := { th.spent with source := source }.signal t s
    goOn who turnsAtOnce t th
  else (.errand t (some p), th)

/-- Change the world that blocks act on. -/
def withWorld (th : Theatre) (s : Stage) : Theatre :=
  th.withOrchestra { th.orchestra with scene := { th.orchestra.scene with world := s } }

/-- Sleep, and then give a reply. -/
def sleep (who : Option Nat) (ms : Nat) (r : Reply) (th : Theatre) : Act × Theatre :=
  if ms = 0 then (.done r, th.spent)
  else (.asleep (th.now + ms) r, th.wait who (.moment (th.now + ms)))

/-- Wait for a job, unless it is over. -/
def awaitJob (who : Option Nat) (id : Nat) (th : Theatre) : Act × Theatre :=
  match th.job? id with
  | some (.done r) => (.done r, th.spent)
  | _ => (.awaiting id, th.wait who (.job id))

/-- Cancel what a token stands for. -/
def cancel (token : Nat) (th : Theatre) : Act × Theatre :=
  let o := th.orchestra
  (.done .nothing,
    (th.withOrchestra { o with cancelled := token :: o.cancelled }).come (.token (some token)))

/-- Cancel what a token stands for after some time. -/
def cancelAfter (who : Option Nat) (ms token : Nat) (th : Theatre) : Act × Theatre :=
  if ms = 0 then cancel token th
  else
    let until_ := th.now + ms
    (.cancelling ms (some until_) token, th.wait who (.moment until_))

/-- Begin a deed. -/
def beginDeed (who : Option Nat) (d : Deed) (th : Theatre) : Act × Theatre :=
  let o := th.orchestra
  let world := o.scene.world
  match d with
  | .write key content e modified =>
    (.done .nothing, { th with source := th.source.write key content e modified })
  | .remove key =>
    let (was, source) := th.source.remove key
    (.done (.flag was), { th with source := source })
  | .errand t => goOn who turnsAtOnce t th
  | .loadText key text bound =>
    let (l, o) := o.loadText key text bound
    (.done (.outcome (.landed l)), th.withOrchestra o)
  | .dispatch key action cancelled cancelAfter =>
    let token := th.nextToken
    let o := if cancelled then { o with cancelled := token :: o.cancelled } else o
    let th := { th with nextToken := token + 1, orchestra := o }
    let th :=
      match cancelAfter with
      | some ms => (th.launch (.cancelling ms none token)).2
      | none => th
    goOn who turnsAtOnce (.dispatch key action (some token)) th
  | .cached key => (.done (.cached (o.cached? key)), th)
  | .invalidate key =>
    let (was, o) := o.invalidate key
    (.done (.flag was), th.withOrchestra o)
  | .clearCache =>
    let (n, o) := o.clearCache
    (.done (.count n), th.withOrchestra o)
  | .status => (.done (.status o.status), th)
  | .validate text =>
    let (v, s) := Build.validate o.setup.options o.setup.registry text world
    (.done (.validation v), th.withWorld s)
  | .analyze text =>
    (.done (.analysis (Template.parse text o.setup.options.maxDepth).analysis), th)
  | .setState path v =>
    match o.setState path v with
    | .ok o => (.done (.written (.ok ())), th.withOrchestra o)
    | .error e => (.done (.written (.error e)), th)
  | .replaceState v =>
    (.done (.written (.ok ())), th.withOrchestra { o with store := o.store.replace v })
  | .state => (.done (.state o.store), th)
  | .fire event =>
    let runs := o.fired event
    let th := runs.foldl
      (fun th b => (th.launch (.errand (.dispatch b.key b.action none) none)).2) th
    sleep who 1 (.count runs.length) th
  | .subscriptions event => (.done (.count (o.subscriptions.count event)), th)
  | .queueReply r =>
    (.done .nothing, th.withWorld { world with bridge := world.bridge.queueReply r })
  | .sleep ms => sleep who ms .nothing th
  | .shutDown =>
    match goOn who turnsAtOnce .shutDown th with
    | (.done _, th) =>
      (.done (.closed th.orchestra.shutDown th.orchestra.scene.bus.listeners.length), th)
    | other => other
  | .await name =>
    match th.names.get? name with
    | some id => awaitJob who id th
    | none => (.done .nothing, th)

/-- The replies of acts that are all over. -/
def replies? : List Act → Option (List Reply)
  | [] => some []
  | .done r :: rest => (replies? rest).map (r :: ·)
  | _ => none

/-- Acts beside one another, which are over when all of them are. -/
def gather (acts : List Act) : Act :=
  ((replies? acts).map (Act.done ∘ .several)).getD (.several acts)

mutual
/-- Let go of an act. -/
def letGo : Act → Theatre → Theatre
  | .errand t _, th => th.withOrchestra (t.letGo th.orchestra)
  | .limited _ a, th => letGo a th
  | .several acts, th => letGoAll acts th
  | _, th => th

/-- Let go of acts, in order. -/
def letGoAll : List Act → Theatre → Theatre
  | [], th => th
  | a :: rest, th => letGoAll rest (letGo a th)
end

mutual
/-- Begin a cue. -/
def begin (who : Option Nat) (c : Cue) (th : Theatre) : Act × Theatre :=
  match c with
  | .parallel cues =>
    let (acts, th) := beginAll who cues th
    (gather acts, th)
  | .abandon ms c =>
    match begin who c th with
    | (.done r, th) => (.done r, th)
    | (a, th) =>
      if ms = 0 then (.done .abandoned, letGo a th)
      else (.limited (th.now + ms) a, th.wait who (.moment (th.now + ms)))
  | .spawn name c =>
    let (id, th) := th.launch (.cue c)
    sleep who 1 .nothing { th with names := th.names.put name id }
  | .deed d => beginDeed who d th

/-- Begin cues, in order. -/
def beginAll (who : Option Nat) (cues : List Cue) (th : Theatre) : List Act × Theatre :=
  match cues with
  | [] => ([], th)
  | c :: rest =>
    let (a, th) := begin who c th
    let (acts, th) := beginAll who rest th
    (a :: acts, th)
end

mutual
/-- Go on with an act as far as it can. -/
def poll (who : Option Nat) (a : Act) (th : Theatre) : Act × Theatre :=
  match a with
  | .cue c => begin who c th
  | .errand t none => goOn who turnsAtOnce t th
  | .errand t (some p) => resume who t p th
  | .asleep until_ r => if until_ ≤ th.now then (.done r, th.spent) else (.asleep until_ r, th)
  | .cancelling ms none token => cancelAfter who ms token th
  | .cancelling ms (some until_) token =>
    if until_ ≤ th.now then cancel token th else (.cancelling ms (some until_) token, th)
  | .awaiting job =>
    match th.job? job with
    | some (.done r) => (.done r, th.spent)
    | _ => (.awaiting job, th)
  | .limited until_ a =>
    match poll who a th with
    | (.done r, th) => (.done r, th)
    | (a, th) =>
      if until_ ≤ th.now then (.done .abandoned, letGo a th) else (.limited until_ a, th)
  | .several acts =>
    let (acts, th) := pollAll who acts th
    (gather acts, th)
  | .done r => (.done r, th)

/-- Go on with acts, in order. -/
def pollAll (who : Option Nat) (acts : List Act) (th : Theatre) : List Act × Theatre :=
  match acts with
  | [] => ([], th)
  | a :: rest =>
    let (a, th) := poll who a th
    let (acts, th) := pollAll who rest th
    (a :: acts, th)
end

/-- Let the jobs that were called take their turns, until none is left or `fuel` is used up. -/
def drain : Nat → Theatre → Theatre
  | 0, th => th
  | fuel + 1, th =>
    match th.queue with
    | [] => th
    | id :: rest =>
      let th := { th with queue := rest }
      match th.job? id with
      | none => drain fuel th
      | some (.done _) => drain fuel th
      | some a =>
        let (a, th) := poll id a th.rested
        let th := th.setJob id a
        match a with
        | .done _ => drain fuel (th.come (.job id))
        | _ => drain fuel th

/-- The next moment that someone waits for. -/
def nextMoment? (th : Theatre) : Option Nat :=
  (th.waits.filterMap fun e =>
    match e.1 with
    | .moment t => some t
    | _ => none).min?

/-- Go on with the act of a cue until it is over, nobody waits for a moment, or `fuel` is used
up. -/
def run : Nat → Act → Theatre → Act × Theatre
  | 0, a, th => (a, th)
  | fuel + 1, a, th =>
    let (a, th) := if th.called then poll none a { th with called := false } else (a, th)
    match a with
    | .done _ => (a, th)
    | _ =>
      let th := (drain fuel th).rested
      if th.called then run fuel a th
      else
        match th.nextMoment? with
        | none => (a, th)
        | some t => run fuel a ({ th with now := max th.now t }.come (.moment t))

/-- How many turns a rehearsal may take over a cue. -/
def patience : Nat := 100000

/-- Give a cue, and see what it comes to. -/
def give (c : Cue) (th : Theatre) : Reply × Theatre :=
  match run patience (.cue c) { th with called := true } with
  | (.done r, th) => (r, th)
  | (_, th) => (.abandoned, th)

/-- A rehearsal that begins. The listener of its bus writes down what it hears. -/
def start (setup : Setup Stage) (log : ActivityLog) (bridge : Bridge) (source : Source) :
    Theatre :=
  let hear := fun e => Reaction.change (fun (s : Stage) => { s with heard := s.heard ++ [e] }) .done
  let bus := (Bus.empty.subscribe "*" hear).2
  { orchestra := { setup := setup, scene := ⟨bus, { bridge := bridge }⟩, log := log }
    source := source }

end Theatre

end LivePanel.Rehearsal
