import BigMovies.App.Navigation
import BigMovies.Controllers.Requests
import BigMovies.Services.Failures

/-! Where the player comes from. What is played can be traced back to the tap,
from there to the answer that had brought the item, to the element of the body
it was decoded from, and to the query for which the request was made. -/
namespace BigMovies
open Dart Transition

namespace App
variable {log : List Event} {home : Home}

namespace Home
variable {next : Home} {e : Event}

end Home

/-- The controller's part of a history. -/
def controllerLog (log : List Event) : List MainPageDataController.Event :=
  (log.filterMap Event.main?).filterMap MainPage.Event.toController?

/-- What the controller has received since the last change of the query. -/
def received (log : List Event) : List (Flight × Answer) :=
  MainPageDataController.completions (controllerLog log)

section
variable {getIt : GetIt} {configFile : Except Thrown Json} {s : State getIt}

end

end App
end BigMovies
