import Colloquy.Decimal.Fixed
import Colloquy.Decimal.Numeral
import Colloquy.Text.Blank
import Colloquy.Text.Case
import Colloquy.Tool.Weather

/-! Prices of cryptocurrencies: CoinGecko is asked first, CoinCap where it has no answer. -/

namespace Colloquy

/-- The two price services as they are reached. -/
structure PriceService (m : Type → Type) where
  fetch : Http.Fetch m
  coinGecko : String := "https://api.coingecko.com/api/v3"
  coinCap : String := "https://api.coincap.io/v2"

/-! ### Amounts -/

/-- Puts a comma in front of every group of three digits, counted from the end. -/
def groupThousands : List Char → List Char
  | [] => []
  | d :: ds => if ds.length % 3 = 0 && !ds.isEmpty then d :: ',' :: groupThousands ds else d :: groupThousands ds

/-- The whole and the fractional digits of an amount of money. -/
def amountDigits (x : Float) : List Char × List Char :=
  if Decimal.isFinite x then Decimal.splitUnits 2 ((Decimal.Binary.ofFloat x).units 2)
  else if x.toBits <<< 12 == 0 then ("inf".toList, ['0', '0'])
  else ("NaN".toList, ['0', '0'])

/-- The amount is below zero. -/
def isBelowZero (x : Float) : Bool :=
  Decimal.isNegative x && (if Decimal.isFinite x then (Decimal.Binary.ofFloat x).m != 0 else x.toBits <<< 12 == 0)

/-- An amount with two places and its thousands grouped. -/
def usdText (x : Float) : String :=
  let (whole, cents) := amountDigits x
  String.ofList ((if isBelowZero x then ['-'] else []) ++ groupThousands whole ++ '.' :: cents)

namespace PriceService

variable {m : Type → Type} [Monad m]

/-! ### Asking -/

/-- The address of a price at CoinGecko. -/
def geckoUrl? (s : PriceService m) (id : String) : Option Http.Url :=
  (Http.Url.read s.fetch.toAscii (s.coinGecko ++ "/simple/price")).map (·.withForm [("ids", id), ("vs_currencies", "usd")])

/-- The address of an asset at CoinCap. -/
def capUrl? (s : PriceService m) (id : String) : Option Http.Url :=
  Http.Url.read s.fetch.toAscii (s.coinCap ++ "/assets/" ++ id)

/-- CoinCap calls some assets by a name of its own. -/
def capId (id : String) : String := if id = "bnb" || id = "binancecoin" then "binance-coin" else id

def geckoPrice (s : PriceService m) (id : String) : m (Option Float) :=
  match s.geckoUrl? id with
  | none => pure none
  | some url => do
    let reply ← s.fetch.send { url }
    return reply.toOption.bind fun r =>
      if r.isSuccess then r.json?.bind (fun d => WeatherService.number? ((d.get id).get "usd")) else none

def failed (reason : String) : ToolError := .executionFailed reason

/-- CoinCap's price, which it gives as text; nothing where the answer holds none. -/
def priceInReply (url : Http.Url) (reply : Except Http.NoReply Http.Reply) : Except ToolError (Option Float) :=
  match reply with
  | .error .timedOut => .error (failed "Request timed out. The price APIs might be experiencing high load.")
  | .error .dropped =>
    .error (failed s!"Network error while fetching price: error sending request for url ({url.display})")
  | .ok r =>
    if !r.isSuccess then .error (failed s!"Both APIs failed. CoinCap returned status {r.status}.")
    else match r.json? with
      | none => .error (failed s!"Invalid CoinCap response: error decoding response body for url ({url.display})")
      | some d => .ok (((d.get "data").get "priceUsd").asText?.bind Decimal.numeral?)

def capPrice (s : PriceService m) (id : String) : m (Except ToolError (Option Float)) :=
  match s.capUrl? id with
  | none => pure (.error (failed "Network error while fetching price: builder error"))
  | some url => priceInReply url <$> s.fetch.send { url }

/-! ### The tool -/

/-- The symbol asked for, without blanks around it. -/
def symbol? (params : Json) : Option String :=
  match (params.get "symbol").asText? with
  | some s => if (Text.trimBlanks s).isEmpty then none else some (Text.trimBlanks s)
  | none => none

def priceText (label : String) (price : Float) (source : String) : String :=
  s!"Current price of {label}: ${usdText price} USD (via {source})"

/-- What CoinCap's answer comes to. -/
def capOutcome (label : String) : Except ToolError (Option Float) → ToolOutcome
  | .error e => .error e
  | .ok (some price) => .ok (priceText label price "CoinCap")
  | .ok none => .error (failed (s!"Could not find price for {label} on either API. " ++
      "Make sure you're using a valid cryptocurrency symbol."))

def priceOf (s : PriceService m) (symbol : String) : m ToolOutcome := do
  let id := Text.lower symbol
  let label := Text.upper symbol
  match ← s.geckoPrice id with
  | some price => return .ok (priceText label price "CoinGecko")
  | none => return capOutcome label (← s.capPrice (capId id))

/-- The price of a cryptocurrency in dollars. -/
def price (s : PriceService m) (params : Json) : m ToolOutcome :=
  match symbol? params with
  | none => pure (.error (.invalidParams "symbol is required"))
  | some symbol => s.priceOf symbol

end PriceService

end Colloquy
