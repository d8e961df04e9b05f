import Colloquy.Decimal.Reader
import Colloquy.Http.Fetch
import Colloquy.Tool.Schema

/-! Weather in the United States: the alerts of a state and the forecast of a place, from the National
Weather Service. -/

namespace Colloquy

/-- The weather service as it is reached. -/
structure WeatherService (m : Type → Type) where
  fetch : Http.Fetch m
  base : String := "https://api.weather.gov"

/-- An address without slashes at its end. -/
def withoutSlashes (base : String) : String := String.ofList (base.toList.reverse.dropWhile (· == '/')).reverse

/-- The item of an object as text, or a fallback. -/
def Json.textOr (j : Json) (key fallback : String) : String := (j.get key).asText?.getD fallback

def Json.items? : Json → Option (List Json)
  | .arr items => some items
  | _ => none

namespace WeatherService

variable {m : Type → Type} [Monad m]

/-- The request for a document of the service. -/
def request (url : Http.Url) : Http.Request :=
  { url, accept := "application/geo+json", userAgent := some "weather-app/1.0" }

/-- Fetches a document; nothing where there is none for whatever reason. -/
def document (s : WeatherService m) (address : String) : m (Option Json) :=
  match Http.Url.read s.fetch.toAscii address with
  | none => pure none
  | some url => do
    let reply ← s.fetch.send (request url)
    return reply.toOption.bind (fun r => if r.isFault then none else r.json?)

/-! ### Alerts -/

/-- A code of two letters, in capitals. -/
def stateCode? (params : Json) : Option String :=
  match (params.get "state").asText? with
  | some s => if s.utf8ByteSize = 2 && s.all Char.isAlpha then some (s.map Char.toUpper) else none
  | none => none

def alertText (feature : Json) : String :=
  let props := feature.get "properties"
  "\n".intercalate [
    "Event: " ++ props.textOr "event" "Unknown",
    "Area: " ++ props.textOr "areaDesc" "Unknown",
    "Severity: " ++ props.textOr "severity" "Unknown",
    "Description: " ++ props.textOr "description" "No description available",
    "Instructions: " ++ props.textOr "instruction" "No specific instructions provided"]

def separator : String := "\n---\n"

def alertsText : List Json → String
  | [] => "No active alerts for this state."
  | features => separator.intercalate (features.map alertText)

/-- The active alerts of a state. -/
def alerts (s : WeatherService m) (params : Json) : m ToolOutcome :=
  match stateCode? params with
  | none => pure (.error (.invalidParams "state must be a two-letter code"))
  | some code => do
    let document ← s.document (withoutSlashes s.base ++ "/alerts/active/area/" ++ code)
    return match document.bind (fun d => (d.get "features").items?) with
      | some features => .ok (alertsText features)
      | none => .error (.executionFailed "Unable to fetch alerts or no alerts found.")

/-! ### Forecasts -/

/-- The double that a JSON number stands for. -/
def number? : Json → Option Float
  | .num (.int n) => some (Decimal.intToFloat n)
  | .num (.float x) => some x
  | _ => none

/-- The magnitude is at most the bound. -/
def isWithin (bound : Nat) (x : Float) : Bool :=
  let b := Decimal.Binary.ofFloat x
  Decimal.isFinite x && Decimal.compareScaled bound 0 b.m b.q != .lt

def coordinate? (params : Json) (key : String) (bound : Nat) : Except ToolError Float :=
  match (number? (params.get key)).filter (isWithin bound) with
  | some x => .ok x
  | none => .error (.invalidParams s!"{key} must be a number within ±{bound}")

/-- Coordinates are written in an address with the fewest digits and without an exponent. -/
def coordinateLayout : Decimal.Layout := ⟨none, false, .awayFromZero⟩

def coordinateText (x : Float) : String := String.ofList (coordinateLayout.render x)

def periodText (period : Json) : String :=
  "\n".intercalate [
    period.textOr "name" "Unknown" ++ ":",
    "Temperature: " ++ (period.get "temperature").compact ++ "°" ++ period.textOr "temperatureUnit" "F",
    "Wind: " ++ period.textOr "windSpeed" "?" ++ " " ++ period.textOr "windDirection" "",
    "Forecast: " ++ period.textOr "detailedForecast" ""]

/-- Most periods that a forecast lists. -/
def periodsShown : Nat := 5

def forecastText (periods : List Json) : String := separator.intercalate ((periods.take periodsShown).map periodText)

def noForecast : ToolOutcome := .error (.executionFailed "Unable to fetch forecast data for this location.")

def noDetails : ToolOutcome := .error (.executionFailed "Unable to fetch detailed forecast.")

/-- The forecast of a place: the place's document names the address of the forecast's. -/
def forecastAt (s : WeatherService m) (latitude longitude : Float) : m ToolOutcome := do
  let place ← s.document
    (withoutSlashes s.base ++ "/points/" ++ coordinateText latitude ++ "," ++ coordinateText longitude)
  match place.bind (fun d => ((d.get "properties").get "forecast").asText?) with
  | none => return noForecast
  | some address => do
    let forecast ← s.document address
    return match forecast.bind (fun d => ((d.get "properties").get "periods").items?) with
      | some periods => .ok (forecastText periods)
      | none => noDetails

def forecast (s : WeatherService m) (params : Json) : m ToolOutcome :=
  match coordinate? params "latitude" 90, coordinate? params "longitude" 180 with
  | .error e, _ => pure (.error e)
  | .ok _, .error e => pure (.error e)
  | .ok latitude, .ok longitude => s.forecastAt latitude longitude

end WeatherService

end Colloquy
