import UsageFeed.Episode
import UsageFeed.Report.Loader
import UsageFeed.Service.Client

/-!
# `UsageFeed.Connected` — the world behind files and a network

## Contents
- `Journal.requests`, the requests that were sent, a view of a journal.
- `Surroundings` and `World.connected`, the world in which reports are files or lie on the web, and
  the service is reached over the network.
-/

namespace UsageFeed

open Service (Call Client)

/-- The requests that were sent while something happened. -/
def Occurrence.requests (k : Client) : Occurrence → List Http.Request
  | loaded reference _ => Report.sent reference
  | called c _ => k.sent c
  | _ => []

/-- The requests that were sent. -/
def Journal.requests (k : Client) (j : Journal) : List Http.Request :=
  j.flatMap (Occurrence.requests k)

/-- What the program is connected to. -/
structure Surroundings where
  files : Files
  network : Http.Network
  time : Calendar.Instant

/-- The world in which everything comes from the surroundings. -/
def World.connected (k : Client) (s : Surroundings) : World where
  load j reference :=
    let result := Report.load s.files s.network (j.requests k) reference
    (Report.loaded reference result, result)
  call j c := (k.sending c.operation, k.call s.network (j.requests k) c)
  now _ := s.time

end UsageFeed
