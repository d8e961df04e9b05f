import Colloquy.Tool.Local
import Colloquy.Tool.Price

/-! The tools that come with the program. -/

namespace Colloquy

/-- A parameter of a tool: name, JSON type, description. -/
structure Parameter where
  name : String
  type : String
  description : String

/-- The schema of an object in which all parameters are required. -/
def parametersSchema (ps : List Parameter) : Json :=
  .obj [("properties", .ofMembers (ps.map (fun p => (p.name, .obj [("description", p.description), ("type", p.type)])))),
    ("required", .arr (ps.map (fun p => .str p.name))), ("type", "object")]

def forecastSchema : ToolSchema :=
  ⟨"get_forecast", "Get weather forecast for a location.", parametersSchema
    [⟨"latitude", "number", "Latitude of the location"⟩, ⟨"longitude", "number", "Longitude of the location"⟩]⟩

def alertsSchema : ToolSchema :=
  ⟨"get_alerts", "Get weather alerts for a US state.",
    parametersSchema [⟨"state", "string", "Two-letter US state code (e.g. CA, NY)"⟩]⟩

def priceSchema : ToolSchema :=
  ⟨"get_crypto_price", "Get the current price of a cryptocurrency.",
    parametersSchema [⟨"symbol", "string", "The cryptocurrency symbol (e.g., bitcoin, ethereum, solana)"⟩]⟩

variable {m : Type → Type} [Monad m]

/-- A tool that answers at once. -/
def promptTool (schema : ToolSchema) (run : Json → m ToolOutcome) : Tool (Json → m Timed) :=
  ⟨schema, fun params => (fun outcome => { outcome }) <$> run params⟩

/-- The built-in tools over a web. -/
def builtinTools (weather : WeatherService m) (prices : PriceService m) : List (Tool (Json → m Timed)) :=
  [promptTool forecastSchema weather.forecast, promptTool alertsSchema weather.alerts, promptTool priceSchema prices.price]

def builtinRegistry (weather : WeatherService m) (prices : PriceService m) : Registry (Json → m Timed) :=
  (Registry.empty.registerAll (builtinTools weather prices)).toOption.getD .empty

end Colloquy
