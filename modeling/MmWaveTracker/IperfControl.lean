import MmWaveTracker.IperfParameters

/-! The control connections of `iperf_run_client` and `iperf_run_server`: one server, any number of
clients, and streams over TCP that come in through the same listener. Left out are what the streams
transfer, writes that fail, connections that are closed or reset by the other end, and the timers; a
test that is stopped while its streams are created is left out too. -/
namespace MmWaveTracker

namespace IperfControl

open IperfParameters (Mode)

/-- What `test->state` can be; a client starts with none of the states that are sent. -/
inductive State where
  | initial
  | testStart
  | testRunning
  | testEnd
  | paramExchange
  | createStreams
  | serverTerminate
  | clientTerminate
  | exchangeResults
  | displayResults
  | iperfStart
  | iperfDone
  | accessDenied
  | serverError
  deriving DecidableEq

/-- What the server needs of the parameters: the direction, the number of streams in each direction,
and whether an option of TCP makes it listen anew. -/
structure Request where
  mode : Mode
  numStreams : ℕ
  relisten : Bool
  deriving DecidableEq

inductive ConnId where
  | control (client : ℕ)
  | stream (client k : ℕ)
  deriving DecidableEq

section system

variable {B : Type}

/-- What is written to a connection, as a whole. -/
inductive Item (B : Type) where
  | cookie (c : ℕ)
  | state (s : State)
  | params (request : Request)
  | results (b : B)

structure Conn (B : Type) where
  toServer : List (Item B)
  toClient : List (Item B)

/-- Where `iperf_run_client` is: in `select` with a state, between the calls of
`iperf_create_streams`, or in the read of `get_results`. A test that was ended from outside
remembers where it was. -/
inductive ClientPc where
  | idle
  | dialled
  | select (state : State)
  | create (k : ℕ)
  | cookieDue (k : ℕ)
  | readResults
  | done
  | error
  | stopped (pc : ClientPc)
  deriving DecidableEq

structure Client (B : Type) where
  pc : ClientPc
  peerResults : Option B

/-- Where `iperf_run_server` is: in `select` with a state, in a read that blocks, or between two
writes. -/
inductive ServerPc where
  | select (state : State)
  | readCookie
  | readParams
  | readStreamCookie (id : ConnId)
  | starting
  | readResults
  | answering
  | done
  | error
  deriving DecidableEq

structure Server (B : Type) where
  pc : ServerPc
  ctrl : Option ConnId
  cookie : ℕ
  request : Request
  recAccepted : ℕ
  sendAccepted : ℕ
  streams : List (ConnId × Bool)
  peerResults : Option B

structure System (B : Type) where
  server : Server B
  client : ℕ → Client B
  conn : ConnId → Conn B
  backlog : List ConnId
  lost : List ConnId

/-- What the clients come with, and what the server makes of the results of a client. -/
structure Setup (B : Type) where
  cookie : ℕ → ℕ
  request : ℕ → Request
  results : ℕ → B
  answer : B → B

def idleSystem : System B where
  server := ⟨.select .iperfStart, none, 0, ⟨.receiver, 0, false⟩, 0, 0, [], none⟩
  client := fun _ => ⟨.idle, none⟩
  conn := fun _ => ⟨[], []⟩
  backlog := []
  lost := []

/-- The streams of a client in the order in which `iperf_create_streams` makes them, and whether
they send. -/
def roles (request : Request) : List Bool :=
  match request.mode with
  | .sender => List.replicate request.numStreams true
  | .receiver => List.replicate request.numStreams false
  | .bidirectional => List.replicate request.numStreams true ++
      List.replicate request.numStreams false

/-- The server has the mode that is opposite to that of the client. -/
def streamsToRec (request : Request) : ℕ :=
  if request.mode = .receiver then 0 else request.numStreams

def streamsToSend (request : Request) : ℕ :=
  if request.mode = .sender then 0 else request.numStreams

section writes

def write (sys : System B) (id : ConnId) (m : Item B) : System B :=
  {sys with
    conn := Function.update sys.conn id
      {sys.conn id with toServer := (sys.conn id).toServer ++ [m]}}

def reply (sys : System B) (id : ConnId) (m : Item B) : System B :=
  {sys with
    conn := Function.update sys.conn id
      {sys.conn id with toClient := (sys.conn id).toClient ++ [m]}}

def setToServer (sys : System B) (id : ConnId) (rest : List (Item B)) : System B :=
  {sys with conn := Function.update sys.conn id {sys.conn id with toServer := rest}}

def setToClient (sys : System B) (id : ConnId) (rest : List (Item B)) : System B :=
  {sys with conn := Function.update sys.conn id {sys.conn id with toClient := rest}}

def setClient (sys : System B) (i : ℕ) (c : Client B) : System B :=
  {sys with client := Function.update sys.client i c}

def setClientPc (sys : System B) (i : ℕ) (pc : ClientPc) : System B :=
  setClient sys i {sys.client i with pc := pc}

def setServer (sys : System B) (server : Server B) : System B := {sys with server := server}

def setServerPc (sys : System B) (pc : ServerPc) : System B :=
  setServer sys {sys.server with pc := pc}

/-- `iperf_set_send_state` and the other writes of the server to its control connection. -/
def tell (sys : System B) (m : Item B) : System B :=
  match sys.server.ctrl with
  | none => sys
  | some id => reply sys id m

/-- Connections that wait for an `accept` are lost with the socket that they wait at. -/
def relisten (sys : System B) : System B :=
  if sys.server.request.relisten then {sys with backlog := [], lost := sys.backlog ++ sys.lost}
    else sys

end writes

variable (u : Setup B)

section client

/-- The next round of the loop in `iperf_create_streams`, or its end. -/
def createFrom (request : Request) (k : ℕ) : ClientPc :=
  if k < (roles request).length then .create k else .select .createStreams

/-- `iperf_handle_message_client` with the item whose first byte is read as a state. -/
def handleMessageClient (sys : System B) (i : ℕ) : Item B → System B
  | .state .paramExchange =>
      write (setClientPc sys i (.select .paramExchange)) (.control i) (.params (u.request i))
  | .state .createStreams => setClientPc sys i (createFrom (u.request i) 0)
  | .state .testStart => setClientPc sys i (.select .testStart)
  | .state .testRunning => setClientPc sys i (.select .testRunning)
  | .state .exchangeResults =>
      write (setClientPc sys i .readResults) (.control i) (.results (u.results i))
  | .state .displayResults => write (setClientPc sys i .done) (.control i) (.state .iperfDone)
  | .state .iperfDone => setClientPc sys i .done
  | _ => setClientPc sys i .error

/-- `get_results` of the client. -/
def clientGetResults (sys : System B) (i : ℕ) : Item B → System B
  | .results b => setClient sys i ⟨.select .exchangeResults, some b⟩
  | _ => setClientPc sys i .error

end client

section server

/-- A stream that has shown the cookie: those that receive come first. -/
def addStream (server : Server B) (id : ConnId) : Server B :=
  if server.recAccepted ≠ streamsToRec server.request then
    {server with recAccepted := server.recAccepted+1, streams := server.streams ++ [(id, false)]}
  else if server.sendAccepted ≠ streamsToSend server.request then
    {server with sendAccepted := server.sendAccepted+1, streams := server.streams ++ [(id, true)]}
  else server

/-- The test starts when all streams are there. -/
def checkStreams (sys : System B) : System B :=
  if sys.server.recAccepted = streamsToRec sys.server.request ∧
      sys.server.sendAccepted = streamsToSend sys.server.request then
    setServerPc (tell (relisten sys) (.state .testStart)) .starting
  else setServerPc sys (.select .createStreams)

/-- `iperf_handle_message_server` with the item whose first byte is read as a state. -/
def handleMessageServer (sys : System B) : Item B → System B
  | .state .testStart => setServerPc sys (.select .testStart)
  | .state .testEnd => setServerPc (tell sys (.state .exchangeResults)) .readResults
  | .state .iperfDone => setServerPc sys .done
  | .state .clientTerminate => setServerPc sys .done
  | _ => setServerPc sys .error

/-- The rest of `iperf_accept` after the read of the cookie. -/
def serverCookie (sys : System B) : Item B → System B
  | .cookie c => setServerPc
      (tell (setServer sys {sys.server with cookie := c}) (.state .paramExchange)) .readParams
  | _ => setServerPc sys .error

/-- `iperf_exchange_parameters` of the server after the read of the parameters. -/
def serverParams (sys : System B) : Item B → System B
  | .params request =>
    checkStreams (tell (relisten (setServer sys {sys.server with request := request}))
      (.state .createStreams))
  | _ => setServerPc sys .error

/-- `iperf_tcp_accept` after the read of the cookie. -/
def serverStreamCookie (sys : System B) (id : ConnId) : Item B → System B
  | .cookie c =>
    if c = sys.server.cookie then checkStreams (setServer sys (addStream sys.server id))
    else checkStreams (reply sys id (.state .accessDenied))
  | _ => setServerPc sys .error

/-- `iperf_exchange_results` of the server after the read of the results. -/
def serverResults (sys : System B) : Item B → System B
  | .results b =>
    setServerPc (tell (setServer sys {sys.server with peerResults := some b})
      (.results (u.answer b))) .answering
  | _ => setServerPc sys .error

/-- A read from a connection that blocks while nothing has arrived. -/
def readFrom (sys : System B) (id : ConnId) (f : System B → Item B → System B) :
    Option (System B) :=
  match (sys.conn id).toServer with
  | [] => none
  | m :: rest => some (f (setToServer sys id rest) m)

def readControl (sys : System B) (f : System B → Item B → System B) : Option (System B) :=
  match sys.server.ctrl with
  | none => none
  | some id => readFrom sys id f

/-- One step of the server other than `accept`. -/
def serve (sys : System B) : Option (System B) :=
  match sys.server.pc with
  | .select _ => readControl sys handleMessageServer
  | .readCookie => readControl sys serverCookie
  | .readParams => readControl sys serverParams
  | .readStreamCookie id => readFrom sys id (serverStreamCookie · id)
  | .starting => some (setServerPc (tell sys (.state .testRunning)) (.select .testRunning))
  | .readResults => readControl sys (serverResults u)
  | .answering => some (setServerPc (tell sys (.state .displayResults)) (.select .displayResults))
  | .done => none
  | .error => none

/-- What `iperf_run_server` does with the next connection when the listener is ready. -/
def accept (sys : System B) : Option (System B) :=
  match sys.server.pc, sys.backlog with
  | .select state, id :: rest =>
    let sys := {sys with backlog := rest}
    if state = .createStreams then some (setServerPc sys (.readStreamCookie id))
    else if sys.server.ctrl = none then
      some (setServer sys {sys.server with ctrl := some id, pc := .readCookie})
    else some (reply sys id (.state .accessDenied))
  | _, _ => none

end server

/-- What can happen. Of what `iperf_client_end` does, `stop` is the byte on the control connection;
the sockets that it closes before and after are left out. -/
inductive Event where
  | dial (i : ℕ)
  | sendCookie (i : ℕ)
  | receive (i : ℕ)
  | dialStream (i : ℕ)
  | sendStreamCookie (i : ℕ)
  | finish (i : ℕ)
  | stop (i : ℕ)
  | reset (i : ℕ)
  | accept
  | serve
  deriving DecidableEq

/-- One byte, or the results, from the server. -/
def receive (sys : System B) (i : ℕ) : Option (System B) :=
  match (sys.conn (.control i)).toClient with
  | [] => none
  | m :: rest =>
    match (sys.client i).pc with
    | .select _ => some (handleMessageClient u (setToClient sys (.control i) rest) i m)
    | .readResults => some (clientGetResults (setToClient sys (.control i) rest) i m)
    | _ => none

/-- Where `endTestImpl` finds a client; while streams are created or the connection is made it is
left out. -/
def stoppable : ClientPc → Bool
  | .select _ => true
  | .readResults => true
  | _ => false

def step (sys : System B) : Event → Option (System B)
  | .dial i =>
    if (sys.client i).pc = .idle then
      some {setClientPc sys i .dialled with backlog := sys.backlog ++ [.control i]}
    else none
  | .sendCookie i =>
    if (sys.client i).pc = .dialled then
      some (write (setClientPc sys i (.select .initial)) (.control i) (.cookie (u.cookie i)))
    else none
  | .receive i => receive u sys i
  | .dialStream i =>
    match (sys.client i).pc with
    | .create k => some {setClientPc sys i (.cookieDue k) with
        backlog := sys.backlog ++ [.stream i k]}
    | _ => none
  | .sendStreamCookie i =>
    match (sys.client i).pc with
    | .cookieDue k =>
      some (write (setClientPc sys i (createFrom (u.request i) (k+1))) (.stream i k)
        (.cookie (u.cookie i)))
    | _ => none
  | .finish i =>
    if (sys.client i).pc = .select .testRunning then
      some (write (setClientPc sys i (.select .testEnd)) (.control i) (.state .testEnd))
    else none
  | .stop i =>
    if stoppable (sys.client i).pc then
      some (write (setClientPc sys i (.stopped (sys.client i).pc)) (.control i) (.state .iperfDone))
    else none
  | .reset i => if .control i ∈ sys.lost then some (setClientPc sys i .error) else none
  | .accept => accept sys
  | .serve => serve u sys

end system

end IperfControl

end MmWaveTracker
