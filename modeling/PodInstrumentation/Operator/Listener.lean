/-!
A server that listens on an address. It is a runner, which serves requests, and a site, which
listens for them; starting it makes both, and stopping it takes them down in reverse order. -/
namespace PodInstrumentation

inductive ListenerCall where
  | makeRunner
  | setUpRunner
  | makeSite
  | startSite
  | serve
  | stopSite
  | cleanUpRunner
deriving DecidableEq, Repr

inductive ListenerError where
  | failed (call : ListenerCall)
  | badCertificate
deriving DecidableEq, Repr

/-- The certificate that a server finds: none is found unless both of its files are there. -/
inductive Certificate where
  | absent
  | usable
  | unusable
deriving DecidableEq, Repr

structure Surroundings where
  fails : ListenerCall → Bool
  certificate : Certificate

structure Listener where
  runner : Bool
  site : Bool
  calls : List ListenerCall
deriving DecidableEq, Repr

abbrev ListenerAction := ExceptT ListenerError (StateM Listener)

namespace Listener

def idle : Listener := ⟨false, false, []⟩

def certificateFile (dir : String) : String := s!"{dir}/tls.crt"
def keyFile (dir : String) : String := s!"{dir}/tls.key"

def certificateIn (present : String → Bool) (loads : Bool) (dir : String) : Certificate :=
  if dir != "" && present (certificateFile dir) && present (keyFile dir) then
    if loads then .usable else .unusable
  else .absent

/-- Makes a call, which is noted whether it fails or not. -/
def call (w : Surroundings) (c : ListenerCall) : ListenerAction Unit := do
  modify fun l => { l with calls := l.calls ++ [c] }
  if w.fails c then throw (.failed c)

def start (w : Surroundings) : ListenerAction Unit := do
  call w .makeRunner
  modify fun l => { l with runner := true }
  call w .setUpRunner
  if w.certificate = .unusable then throw .badCertificate
  call w .makeSite
  modify fun l => { l with site := true }
  call w .startSite

def takeDown (w : Surroundings) : ListenerAction Unit := do
  if (← get).site then
    call w .stopSite
    modify fun l => { l with site := false }
  if (← get).runner then
    call w .cleanUpRunner
    modify fun l => { l with runner := false }

/-- Stops the server; what cannot be taken down stays, and that is no error. -/
def stop (w : Surroundings) : ListenerAction Unit :=
  tryCatch (takeDown w) fun _ => pure ()

/-- Serves between start and stop. A server that started is stopped however serving ends. -/
def run (w : Surroundings) : ListenerAction Unit := do
  start w
  tryCatch (call w .serve) fun e => do
    stop w
    throw e
  stop w

end Listener

end PodInstrumentation
