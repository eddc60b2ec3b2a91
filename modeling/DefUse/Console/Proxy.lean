import DefUse.Console.Routing

/-!
# Console/Proxy — how records reach the current console

The program prints through a proxy, which passes everything on to the console behind it.  Records
take another way.  They go to a logger, which hands each of them to every handler that it has, and a
handler writes to the console that it was made for.  So when another console is put behind the
proxy, the handler of the last one has to go and the logger gets a new one; and as that sets the
logger's threshold anew, the proxy keeps the level that it was asked for.

The logger is there before the proxy and is shared with others, who may have given it handlers of
their own.
-/

namespace DefUse

/-- What a logger hands records to: a handler that writes to a console, or somebody else's. -/
inductive Handler where
  | console (d : Destination)
  | foreign (n : Nat)
  deriving DecidableEq, Repr

/-- The console that a handler writes to. -/
def Handler.console? : Handler → Option Destination
  | console d => some d
  | foreign _ => none

/-- **A logger**: the lowest level that it lets through, and its handlers. -/
structure Logger where
  threshold : Level
  handlers : List Handler
  deriving DecidableEq, Repr

namespace Logger

/-- The consoles that a logger's handlers write to. -/
def consoles (l : Logger) : List Destination := l.handlers.filterMap Handler.console?

/-- The handlers that do not write to a console. -/
def others (l : Logger) : List Handler := l.handlers.filter fun h => h.console?.isNone

/-- Let every handler write a record, or say why it cannot be shown. -/
def handle (c : Console) (l : Logger) (r : Record) : Except Fault (List Writing) :=
  if l.threshold.rank ≤ r.level.rank then
    l.consoles.mapM fun d => (c.record r).map fun ls => ⟨d, ls⟩
  else .ok []

end Logger

/-- **The proxy**: the console behind it, the level that it was asked for, and the logger. -/
structure Proxy where
  backend : Destination
  level : Level
  logger : Logger
  deriving DecidableEq, Repr

namespace Proxy

/-- **Point the logger at the console behind the proxy**, in place of any other console. -/
def configure (p : Proxy) : Proxy :=
  { p with
    logger :=
      { threshold := p.level
        handlers := p.logger.others ++ [.console p.backend] } }

/-- A proxy for the standard console, with a logger that is there already. -/
def start (l : Logger) : Proxy := configure ⟨.standard, .info, l⟩

/-- Put another console behind the proxy. -/
def setBackend (p : Proxy) (d : Destination) : Proxy := configure { p with backend := d }

/-- Ask for another level. -/
def setLevel (p : Proxy) (level : Level) : Proxy :=
  { p with level, logger := { p.logger with threshold := level } }

/-- Put the standard console behind the proxy, without debug records. -/
def reset (p : Proxy) : Proxy := configure { p with backend := .standard, level := .info }

/-- **Answer a request**: the proxy after it and what is written, or why it cannot be shown. -/
def step (c : Console) (p : Proxy) : Request → Except Fault (Proxy × List Writing)
  | .redirect d => .ok (p.setBackend d, [])
  | .reset => .ok (p.reset, [])
  | .verbose on => .ok (p.setLevel (Routing.thresholdOf on), [])
  | .log record => (p.logger.handle c record).map fun ws => (p, ws)
  | .print values => (c.printed values).map fun ls => (p, [⟨p.backend, ls⟩])

/-- Answer requests one after the other. -/
def run (c : Console) (p : Proxy) : List Request → Except Fault (Proxy × List Writing)
  | [] => .ok (p, [])
  | request :: rest => do
    let (p, now) ← p.step c request
    let (p, later) ← p.run c rest
    return (p, now ++ later)

end Proxy

end DefUse
