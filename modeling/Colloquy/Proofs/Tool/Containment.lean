import Colloquy.Tool.Builtin
import Colloquy.Proofs.Http.Base
import Colloquy.Proofs.Json.Compact
import Colloquy.Proofs.Text.Lines
import Colloquy.Proofs.Tool.Parameters
import Colloquy.Turn.Basic

/-! What the built-in tools do over any web. The web may answer every request as it likes, in view of those made before
it, and the requests of a run are noted. Each tool ends with a text, fails, or refuses its parameters before anything is
asked (`Contained`); which requests it makes otherwise is decided by the addresses of the services and by their replies
(`alerts_requests`, `forecast_requests`, `price_requests`). -/

namespace Colloquy

open Http

/-- How the names of hosts are spelled in ASCII, and how requests are answered, each in view of those made before. -/
structure Web where
  toAscii : ToAscii
  answer : List Request → Request → Except NoReply Reply

/-- Asks the web, and notes the request. -/
def Web.fetch (web : Web) : Fetch (StateM (List Request)) where
  toAscii := web.toAscii
  send r made := (web.answer made r, made ++ [r])

/-- A tool took its parameters, and answered or failed. -/
def Attempted (outcome : ToolOutcome) : Prop :=
  (∃ text, outcome = .ok (.str text)) ∨ ∃ reason, outcome = .error (.executionFailed reason)

/-- How a tool ends: it refuses what is no parameter of it without a request, and otherwise answers or fails. -/
structure Contained (acceptable : Prop) (made : List Request) (run : ToolOutcome × List Request) : Prop where
  ends : Attempted run.1 ∨ ∃ reason, run.1 = .error (.invalidParams reason)
  refused : (∃ reason, run.1 = .error (.invalidParams reason)) ↔ ¬acceptable
  unasked : ¬acceptable → run.2 = made

variable {web : Web} {made : List Request} {params : Json} {base : String} {acceptable : Prop}

theorem Attempted.not_refused {outcome : ToolOutcome} (h : Attempted outcome) (reason : String) :
    outcome ≠ .error (.invalidParams reason) := by
  rintro rfl
  obtain ⟨text, htext⟩ | ⟨reason', hreason⟩ := h
  · cases htext
  · cases hreason

theorem Contained.of_refused {reason : String} (h : ¬acceptable) :
    Contained acceptable made (.error (.invalidParams reason), made) where
  ends := .inr ⟨reason, rfl⟩
  refused := iff_of_true ⟨reason, rfl⟩ h
  unasked _ := rfl

theorem Contained.of_attempted {run : ToolOutcome × List Request} (h : acceptable) (hattempted : Attempted run.1) :
    Contained acceptable made run where
  ends := .inl hattempted
  refused := iff_of_false (fun ⟨reason, hreason⟩ => hattempted.not_refused reason hreason) (not_not_intro h)
  unasked hnot := absurd h hnot

/-- Such an outcome ends no turn. -/
theorem Contained.firstFatal_eq {run : ToolOutcome × List Request} (h : Contained acceptable made run)
    (before : Option ToolError) : Conversation.firstFatal before run.1 = before := by
  cases before with
  | some e => rfl
  | none => obtain (⟨text, hrun⟩ | ⟨reason, hrun⟩) | ⟨reason, hrun⟩ := h.ends <;> rw [hrun] <;> rfl

/-! ### Documents -/

/-- The reply reports no fault and has a JSON document for its body. -/
def Brings (reply : Except NoReply Reply) (d : Json) : Prop :=
  ∃ r, reply = .ok r ∧ (r.status < 400 ∨ 600 ≤ r.status) ∧ r.json? = some d

namespace WeatherService

def documentIn (reply : Except NoReply Reply) : Option Json :=
  reply.toOption.bind fun r => if r.isFault then none else r.json?

theorem documentIn_eq_some_iff {reply : Except NoReply Reply} {d : Json} :
    documentIn reply = some d ↔ Brings reply d := by
  cases reply with
  | error e => simp [documentIn, Brings, Except.toOption]
  | ok r =>
      have hstatus : r.isFault = false ↔ r.status < 400 ∨ 600 ≤ r.status := by
        simp only [Reply.isFault, Bool.and_eq_false_iff, decide_eq_false_iff_not, Nat.not_le, Nat.not_lt]
      cases hfault : r.isFault <;> simp [documentIn, Brings, Except.toOption, hfault, ← hstatus]

/-- Paths can be put behind the usual address. -/
theorem isBase_usual {m : Type → Type} (fetch : Fetch m) :
    IsBase fetch.toAscii (withoutSlashes ({ fetch } : WeatherService m).base) := by
  change IsBase fetch.toAscii (withoutSlashes "https://api.weather.gov")
  exact ⟨⟨⟨"https", "api.weather.gov", none, [""], none, none, none⟩, read_of_asciiOnly (by decide +kernel), rfl, rfl⟩,
    ⟨'v', by decide +kernel, rfl⟩⟩

/-- Asking for the document at an address; where that is no address, nothing is asked. -/
def documentRun (web : Web) (made : List Request) (address : String) : Option Json × List Request :=
  match Url.read web.toAscii address with
  | none => (none, made)
  | some url => (documentIn (web.answer made (request url)), made ++ [request url])

theorem documentRun_eq {address : String} {url : Url} (hurl : Url.read web.toAscii address = some url) :
    documentRun web made address = (documentIn (web.answer made (request url)), made ++ [request url]) := by
  rw [documentRun, hurl]

theorem documentRun_unreadable {address : String} (hurl : Url.read web.toAscii address = none) :
    documentRun web made address = (none, made) := by
  rw [documentRun, hurl]

theorem document_run (web : Web) (base : String) (made : List Request) (address : String) :
    (document ⟨web.fetch, base⟩ address).run made = documentRun web made address := by
  rw [document, documentRun]
  dsimp only [Web.fetch]
  cases Url.read web.toAscii address <;> rfl

/-! ### Alerts -/

/-- What the document comes to that was asked for alerts. -/
def alertsIn (document : Option Json) : ToolOutcome :=
  match document.bind (fun d => (d.get "features").items?) with
  | some features => .ok (alertsText features)
  | none => .error (.executionFailed "Unable to fetch alerts or no alerts found.")

theorem attempted_alertsIn (document : Option Json) : Attempted (alertsIn document) := by
  unfold alertsIn
  split
  · exact .inl ⟨_, rfl⟩
  · exact .inr ⟨_, rfl⟩

/-- A letter stands for itself in an address. -/
theorem plain_of_isAlpha {c : Char} (hc : c.isAlpha = true) : isEdge c.toUpper = false ∧ isSlash c.toUpper = false ∧
    inPath c.toUpper = false ∧ c.toUpper.toLower ≠ '.' := by
  have hcodes : ∀ n ≤ 122, (Char.ofNat n).isAlpha = true → isEdge (Char.ofNat n).toUpper = false ∧
      isSlash (Char.ofNat n).toUpper = false ∧ inPath (Char.ofNat n).toUpper = false ∧
        (Char.ofNat n).toUpper.toLower ≠ '.' := by decide +kernel
  have hspec := hcodes c.toNat (toNat_of_isAlpha hc)
  rw [Char.ofNat_toNat] at hspec
  exact hspec hc

def alertsAddress (base : String) (a b : Char) : String :=
  withoutSlashes base ++ "/alerts/active/area/" ++ String.ofList [a.toUpper, b.toUpper]

/-- What is asked for the alerts of a state. -/
structure AsksAlerts (toAscii : ToAscii) (base : String) (a b : Char) (url : Url) : Prop where
  address : Url.read toAscii (alertsAddress base a b) = some url
  code : [a.toUpper, b.toUpper] <:+ url.text.toList

theorem exists_asksAlerts (hbase : IsBase web.toAscii (withoutSlashes base)) {a b : Char} (ha : a.isAlpha = true)
    (hb : b.isAlpha = true) : ∃ url, AsksAlerts web.toAscii base a b url := by
  obtain ⟨haedge, haslash, hapath, hadot⟩ := plain_of_isAlpha ha
  obtain ⟨hbedge, hbslash, hbpath, -⟩ := plain_of_isAlpha hb
  have hdots : dots? [a.toUpper, b.toUpper] = none := by
    unfold dots?
    simp only [List.map_cons, List.map_nil]
    split <;> simp_all
  obtain ⟨url, hread, hends⟩ := hbase.read_plain (by simp [*]) hdots "alerts/active/area" (by decide +kernel)
    (by simp [*])
  refine ⟨url, ?_, hends⟩
  rw [← hread, alertsAddress]
  simp only [String.append_assoc]
  rfl

theorem alerts_run_named {a b : Char} (hstate : NamesState params a b) : (alerts ⟨web.fetch, base⟩ params).run made =
    (alertsIn (documentRun web made (alertsAddress base a b)).1, (documentRun web made (alertsAddress base a b)).2) := by
  rw [alerts, stateCode?_eq_some_iff.mpr ⟨a, b, hstate, rfl⟩]
  dsimp only
  rw [StateT.run_bind, document_run, alertsAddress]
  generalize documentRun web made _ = p
  rfl

theorem alerts_run_unnamed (web : Web) (base : String) (made : List Request) (h : ¬∃ a b, NamesState params a b) :
    (alerts ⟨web.fetch, base⟩ params).run made = (.error (.invalidParams "state must be a two-letter code"), made) := by
  have hnone : stateCode? params = none := by
    rw [Option.eq_none_iff_forall_ne_some]
    intro code hcode
    obtain ⟨a, b, hstate, -⟩ := stateCode?_eq_some_iff.mp hcode
    exact h ⟨a, b, hstate⟩
  rw [alerts, hnone]
  rfl

theorem alerts_contained (web : Web) (base : String) (params : Json) (made : List Request) :
    Contained (∃ a b, NamesState params a b) made ((alerts ⟨web.fetch, base⟩ params).run made) := by
  by_cases hnamed : ∃ a b, NamesState params a b
  · obtain ⟨a, b, hstate⟩ := hnamed
    refine .of_attempted ⟨a, b, hstate⟩ ?_
    rw [alerts_run_named hstate]
    dsimp only
    exact attempted_alertsIn _
  · rw [alerts_run_unnamed web base made hnamed]
    exact .of_refused hnamed

/-- One request is made for the alerts of a state. -/
theorem alerts_requests (web : Web) (hbase : IsBase web.toAscii (withoutSlashes base)) (made : List Request) {a b : Char}
    (hstate : NamesState params a b) : ∃ url, AsksAlerts web.toAscii base a b url ∧
      ((alerts ⟨web.fetch, base⟩ params).run made).2 = made ++ [request url] := by
  obtain ⟨url, hasks⟩ := exists_asksAlerts hbase hstate.2.1 hstate.2.2
  refine ⟨url, hasks, ?_⟩
  rw [alerts_run_named hstate, documentRun_eq hasks.address]

/-! ### Forecasts -/

/-- What the document comes to that was asked for periods. -/
def periodsIn (document : Option Json) : ToolOutcome :=
  match document.bind (fun d => ((d.get "properties").get "periods").items?) with
  | some periods => .ok (forecastText periods)
  | none => noDetails

theorem attempted_periodsIn (document : Option Json) : Attempted (periodsIn document) := by
  unfold periodsIn
  split
  · exact .inl ⟨_, rfl⟩
  · exact .inr ⟨_, rfl⟩

theorem attempted_noForecast : Attempted noForecast := .inr ⟨_, rfl⟩

/-- The reply brings the document of a place, and the document names the address of the forecast. -/
def NamesForecast (reply : Except NoReply Reply) (address : String) : Prop :=
  ∃ d, Brings reply d ∧ (d.get "properties").get "forecast" = .str address

/-- The address of the forecast in the document of a place. -/
def forecastAddress? (document : Option Json) : Option String :=
  document.bind fun d => ((d.get "properties").get "forecast").asText?

theorem forecastAddress?_eq_some_iff {reply : Except NoReply Reply} {address : String} :
    forecastAddress? (documentIn reply) = some address ↔ NamesForecast reply address := by
  simp only [forecastAddress?, Option.bind_eq_some_iff, documentIn_eq_some_iff, Json.asText?_eq_some_iff, NamesForecast]

/-- The parameters hold a latitude and a longitude. -/
def NamesPlace (params : Json) : Prop := (params.get "latitude").IsWithin 90 ∧ (params.get "longitude").IsWithin 180

theorem exists_coordinates (hplace : NamesPlace params) : ∃ latitude longitude,
    coordinate? params "latitude" 90 = .ok latitude ∧ coordinate? params "longitude" 180 = .ok longitude := by
  obtain ⟨latitude, hlatitude⟩ := (exists_coordinate?_iff (by decide)).mpr hplace.1
  obtain ⟨longitude, hlongitude⟩ := (exists_coordinate?_iff (by decide)).mpr hplace.2
  exact ⟨latitude, longitude, hlatitude, hlongitude⟩

theorem coordinate?_cases (params : Json) (key : String) (bound : Nat) :
    (∃ x, coordinate? params key bound = .ok x) ∨
      ∃ reason, coordinate? params key bound = .error (.invalidParams reason) := by
  unfold coordinate?
  split
  · exact .inl ⟨_, rfl⟩
  · exact .inr ⟨_, rfl⟩

def placeAddress (base : String) (latitude longitude : Float) : String :=
  withoutSlashes base ++ "/points/" ++ coordinateText latitude ++ "," ++ coordinateText longitude

/-- What is asked for a place. -/
def AsksPlace (toAscii : ToAscii) (base : String) (params : Json) (url : Url) : Prop :=
  ∃ latitude longitude, coordinate? params "latitude" 90 = .ok latitude ∧
    coordinate? params "longitude" 180 = .ok longitude ∧
      Url.read toAscii (placeAddress base latitude longitude) = some url

theorem exists_asksPlace (hbase : IsBase web.toAscii (withoutSlashes base)) (hplace : NamesPlace params) :
    ∃ url, AsksPlace web.toAscii base params url := by
  obtain ⟨latitude, longitude, hlatitude, hlongitude⟩ := exists_coordinates hplace
  obtain ⟨url, hurl⟩ := hbase.exists_read ("points/" ++ coordinateText latitude ++ "," ++ coordinateText longitude)
  refine ⟨url, latitude, longitude, hlatitude, hlongitude, ?_⟩
  rw [← hurl, placeAddress]
  simp only [String.append_assoc]
  rfl

/-- What is done with the document of a place. -/
def followPlace (s : WeatherService (StateM (List Request))) (place : Option Json) : StateM (List Request) ToolOutcome :=
  match forecastAddress? place with
  | none => pure noForecast
  | some address => do
    let forecast ← s.document address
    return periodsIn forecast

theorem attempted_followPlace (s : WeatherService (StateM (List Request))) (place : Option Json) (made : List Request) :
    Attempted ((followPlace s place).run made).1 := by
  unfold followPlace
  split
  · exact attempted_noForecast
  · next address _ =>
      rw [StateT.run_bind]
      generalize (s.document address).run made = answered
      exact attempted_periodsIn answered.1

theorem forecast_run_named {latitude longitude : Float} (hlatitude : coordinate? params "latitude" 90 = .ok latitude)
    (hlongitude : coordinate? params "longitude" 180 = .ok longitude) :
    (forecast ⟨web.fetch, base⟩ params).run made =
      (followPlace ⟨web.fetch, base⟩ (documentRun web made (placeAddress base latitude longitude)).1).run
        (documentRun web made (placeAddress base latitude longitude)).2 := by
  rw [forecast, hlatitude, hlongitude]
  dsimp only
  rw [forecastAt, StateT.run_bind, document_run, placeAddress]
  generalize documentRun web made _ = p
  rfl

theorem forecast_run_unnamed (web : Web) (base : String) (made : List Request) (h : ¬NamesPlace params) :
    ∃ reason, (forecast ⟨web.fetch, base⟩ params).run made = (.error (.invalidParams reason), made) := by
  obtain ⟨latitude, hlatitude⟩ | ⟨reason, hlatitude⟩ := coordinate?_cases params "latitude" 90
  · obtain ⟨longitude, hlongitude⟩ | ⟨reason, hlongitude⟩ := coordinate?_cases params "longitude" 180
    · exact absurd ⟨(exists_coordinate?_iff (by decide)).mp ⟨latitude, hlatitude⟩,
        (exists_coordinate?_iff (by decide)).mp ⟨longitude, hlongitude⟩⟩ h
    · refine ⟨reason, ?_⟩
      rw [forecast, hlatitude, hlongitude]
      rfl
  · refine ⟨reason, ?_⟩
    rw [forecast, hlatitude]
    rfl

theorem forecast_contained (web : Web) (base : String) (params : Json) (made : List Request) :
    Contained (NamesPlace params) made ((forecast ⟨web.fetch, base⟩ params).run made) := by
  by_cases hplace : NamesPlace params
  · obtain ⟨latitude, longitude, hlatitude, hlongitude⟩ := exists_coordinates hplace
    refine .of_attempted hplace ?_
    rw [forecast_run_named hlatitude hlongitude]
    exact attempted_followPlace _ _ _
  · obtain ⟨reason, hrun⟩ := forecast_run_unnamed web base made hplace
    rw [hrun]
    exact .of_refused hplace

/-- Behind the request for a place, the forecast is asked for at the address that the place's document names, if it
does. -/
structure AsksForecast (web : Web) (made : List Request) (place : Url) (run : ToolOutcome × List Request) : Prop where
  named : ∀ address, NamesForecast (web.answer made (request place)) address →
    run.2 = made ++ request place :: ((Url.read web.toAscii address).map request).toList ∧
      (Url.read web.toAscii address = none → run.1 = noDetails)
  unnamed : (¬∃ address, NamesForecast (web.answer made (request place)) address) → run = (noForecast, made ++ [request place])

theorem forecast_requests (web : Web) (hbase : IsBase web.toAscii (withoutSlashes base)) (made : List Request)
    (hplace : NamesPlace params) : ∃ place, AsksPlace web.toAscii base params place ∧
      AsksForecast web made place ((forecast ⟨web.fetch, base⟩ params).run made) := by
  obtain ⟨place, latitude, longitude, hlatitude, hlongitude, hurl⟩ := exists_asksPlace hbase hplace
  refine ⟨place, ⟨latitude, longitude, hlatitude, hlongitude, hurl⟩, fun address hnames => ?_, fun hnone => ?_⟩
  · rw [forecast_run_named hlatitude hlongitude, documentRun_eq hurl, followPlace, forecastAddress?_eq_some_iff.mpr hnames]
    dsimp only
    rw [StateT.run_bind, document_run]
    cases hnext : Url.read web.toAscii address with
    | none =>
        rw [documentRun_unreadable hnext]
        exact ⟨rfl, fun _ => rfl⟩
    | some next =>
        rw [documentRun_eq hnext, List.append_assoc]
        exact ⟨rfl, nofun⟩
  · have hnone' : forecastAddress? (documentIn (web.answer made (request place))) = none := by
      rw [Option.eq_none_iff_forall_ne_some]
      exact fun address haddress => hnone ⟨address, forecastAddress?_eq_some_iff.mp haddress⟩
    rw [forecast_run_named hlatitude hlongitude, documentRun_eq hurl, followPlace, hnone']
    rfl

end WeatherService

/-! ### Prices -/

namespace PriceService

variable {coinGecko coinCap id symbol : String} {url gecko cap : Url}

def request (url : Url) : Request := { url }

/-- The reply is a success, and tells the price of an asset as a number. -/
def TellsPrice (reply : Except NoReply Reply) (id : String) : Prop :=
  ∃ r d n, reply = .ok r ∧ (200 ≤ r.status ∧ r.status < 300) ∧ r.json? = some d ∧ (d.get id).get "usd" = .num n

def priceTold? (reply : Except NoReply Reply) (id : String) : Option Float :=
  reply.toOption.bind fun r =>
    if r.isSuccess then r.json?.bind (fun d => WeatherService.number? ((d.get id).get "usd")) else none

theorem isSome_number?_iff {v : Json} : (WeatherService.number? v).isSome ↔ ∃ n, v = .num n := by
  cases v with
  | num n => cases n <;> simp [WeatherService.number?]
  | _ => simp [WeatherService.number?]

theorem isSome_priceTold?_iff {reply : Except NoReply Reply} : (priceTold? reply id).isSome ↔ TellsPrice reply id := by
  cases reply with
  | error e => simp [priceTold?, TellsPrice, Except.toOption]
  | ok r =>
      have hstatus : 200 ≤ r.status ∧ r.status < 300 ↔ r.isSuccess = true := by simp [Reply.isSuccess]
      cases hsuccess : r.isSuccess with
      | false => simp [priceTold?, TellsPrice, Except.toOption, hstatus, hsuccess]
      | true =>
          cases hjson : r.json? with
          | none => simp [priceTold?, TellsPrice, Except.toOption, hsuccess, hjson]
          | some d => simp [priceTold?, TellsPrice, Except.toOption, hstatus, hsuccess, hjson, isSome_number?_iff]

theorem geckoPrice_run (hurl : geckoUrl? ⟨web.fetch, coinGecko, coinCap⟩ id = some url) :
    (geckoPrice ⟨web.fetch, coinGecko, coinCap⟩ id).run made =
      (priceTold? (web.answer made (request url)) id, made ++ [request url]) := by
  rw [geckoPrice, hurl]
  rfl

theorem capPrice_run (hurl : capUrl? ⟨web.fetch, coinGecko, coinCap⟩ id = some url) :
    (capPrice ⟨web.fetch, coinGecko, coinCap⟩ id).run made =
      (priceInReply url (web.answer made (request url)), made ++ [request url]) := by
  rw [capPrice, hurl]
  rfl

theorem attempted_failed (reason : String) : Attempted (.error (failed reason)) := .inr ⟨reason, rfl⟩

theorem attempted_capOutcome (label : String) (url : Url) (reply : Except NoReply Reply) :
    Attempted (capOutcome label (priceInReply url reply)) := by
  unfold priceInReply
  split
  · exact attempted_failed _
  · exact attempted_failed _
  · split
    · exact attempted_failed _
    · split
      · exact attempted_failed _
      · unfold capOutcome
        split
        · next heq => cases heq
        · exact .inl ⟨_, rfl⟩
        · exact attempted_failed _

theorem attempted_capPrice {reply : Except ToolError (Option Float)} {asked answered : List Request} (label : String)
    (hcap : (capPrice ⟨web.fetch, coinGecko, coinCap⟩ id).run asked = (reply, answered)) :
    Attempted (capOutcome label reply) := by
  cases hurl : capUrl? ⟨web.fetch, coinGecko, coinCap⟩ id with
  | none =>
      rw [capPrice, hurl] at hcap
      cases hcap
      exact attempted_failed _
  | some url =>
      rw [capPrice_run hurl] at hcap
      cases hcap
      exact attempted_capOutcome label url _

theorem price_run_named (hsymbol : NamesSymbol params symbol) :
    (price ⟨web.fetch, coinGecko, coinCap⟩ params).run made =
      (priceOf ⟨web.fetch, coinGecko, coinCap⟩ symbol).run made := by
  rw [price, symbol?_eq_some_iff.mpr hsymbol]

theorem price_run_unnamed (web : Web) (coinGecko coinCap : String) (made : List Request)
    (h : ¬∃ symbol, NamesSymbol params symbol) :
    (price ⟨web.fetch, coinGecko, coinCap⟩ params).run made = (.error (.invalidParams "symbol is required"), made) := by
  have hnone : symbol? params = none := by
    rw [Option.eq_none_iff_forall_ne_some]
    exact fun symbol hsymbol => h ⟨symbol, symbol?_eq_some_iff.mp hsymbol⟩
  rw [price, hnone]
  rfl

theorem priceOf_run_told {price : Float} {asked : List Request}
    (htold : (geckoPrice ⟨web.fetch, coinGecko, coinCap⟩ (Text.lower symbol)).run made = (some price, asked)) :
    (priceOf ⟨web.fetch, coinGecko, coinCap⟩ symbol).run made =
      (.ok (.str (priceText (Text.upper symbol) price "CoinGecko")), asked) := by
  rw [priceOf, StateT.run_bind, htold]
  rfl

theorem priceOf_run_untold {reply : Except ToolError (Option Float)} {asked answered : List Request}
    (htold : (geckoPrice ⟨web.fetch, coinGecko, coinCap⟩ (Text.lower symbol)).run made = (none, asked))
    (hcap : (capPrice ⟨web.fetch, coinGecko, coinCap⟩ (capId (Text.lower symbol))).run asked = (reply, answered)) :
    (priceOf ⟨web.fetch, coinGecko, coinCap⟩ symbol).run made = (capOutcome (Text.upper symbol) reply, answered) := by
  rw [priceOf, StateT.run_bind, htold]
  change StateT.run (capPrice ⟨web.fetch, coinGecko, coinCap⟩ _ >>= fun reply => pure (capOutcome _ reply)) _ = _
  rw [StateT.run_bind, hcap]
  rfl

theorem price_contained (web : Web) (coinGecko coinCap : String) (params : Json) (made : List Request) :
    Contained (∃ symbol, NamesSymbol params symbol) made ((price ⟨web.fetch, coinGecko, coinCap⟩ params).run made) := by
  by_cases hnamed : ∃ symbol, NamesSymbol params symbol
  · obtain ⟨symbol, hsymbol⟩ := hnamed
    refine .of_attempted ⟨symbol, hsymbol⟩ ?_
    rw [price_run_named hsymbol]
    rcases hgecko : (geckoPrice ⟨web.fetch, coinGecko, coinCap⟩ (Text.lower symbol)).run made with ⟨_ | price, asked⟩
    · obtain ⟨⟨reply, answered⟩, hcap⟩ :
          ∃ p, (capPrice ⟨web.fetch, coinGecko, coinCap⟩ (capId (Text.lower symbol))).run asked = p := ⟨_, rfl⟩
      rw [priceOf_run_untold hgecko hcap]
      exact attempted_capPrice _ hcap
    · rw [priceOf_run_told hgecko]
      exact .inl ⟨_, rfl⟩
  · rw [price_run_unnamed web coinGecko coinCap made hnamed]
    exact .of_refused hnamed

/-- Paths can be put behind the usual addresses. -/
theorem isBase_usual {m : Type → Type} (fetch : Fetch m) :
    IsBase fetch.toAscii ({ fetch } : PriceService m).coinGecko ∧
      IsBase fetch.toAscii ({ fetch } : PriceService m).coinCap := by
  change IsBase fetch.toAscii "https://api.coingecko.com/api/v3" ∧ IsBase fetch.toAscii "https://api.coincap.io/v2"
  constructor
  · exact ⟨⟨⟨"https", "api.coingecko.com", none, ["api", "v3"], none, none, none⟩, read_of_asciiOnly (by decide +kernel), rfl, rfl⟩,
      ⟨'3', by decide +kernel, rfl⟩⟩
  · exact ⟨⟨⟨"https", "api.coincap.io", none, ["v2"], none, none, none⟩, read_of_asciiOnly (by decide +kernel), rfl, rfl⟩,
      ⟨'2', by decide +kernel, rfl⟩⟩

/-- What is asked for the price of an asset, of CoinGecko and of CoinCap. -/
structure AsksPrice (toAscii : ToAscii) (coinGecko coinCap id : String) (gecko cap : Url) : Prop where
  gecko : ∃ url, Url.read toAscii (coinGecko ++ "/simple/price") = some url ∧
    gecko = url.withForm [("ids", id), ("vs_currencies", "usd")]
  cap : Url.read toAscii (coinCap ++ "/assets/" ++ capId id) = some cap

theorem exists_asksPrice (hgecko : IsBase web.toAscii coinGecko) (hcap : IsBase web.toAscii coinCap) (id : String) :
    ∃ gecko cap, AsksPrice web.toAscii coinGecko coinCap id gecko cap := by
  obtain ⟨gecko, hgeckoUrl⟩ := hgecko.exists_read "simple/price"
  obtain ⟨cap, hcapUrl⟩ := hcap.exists_read ("assets/" ++ capId id)
  refine ⟨_, cap, ⟨gecko, ?_, rfl⟩, ?_⟩
  · rw [← hgeckoUrl, String.append_assoc]
    rfl
  · rw [← hcapUrl]
    simp only [String.append_assoc]
    rfl

/-- CoinCap is asked exactly where CoinGecko told no price. -/
structure AsksServices (web : Web) (made : List Request) (id : String) (gecko cap : Url) (asked : List Request) :
    Prop where
  told : TellsPrice (web.answer made (request gecko)) id → asked = made ++ [request gecko]
  untold : ¬TellsPrice (web.answer made (request gecko)) id → asked = made ++ [request gecko, request cap]

theorem price_requests (web : Web) (hgecko : IsBase web.toAscii coinGecko) (hcap : IsBase web.toAscii coinCap) (made : List Request)
    (hsymbol : NamesSymbol params symbol) : ∃ gecko cap,
      AsksPrice web.toAscii coinGecko coinCap (Text.lower symbol) gecko cap ∧
      AsksServices web made (Text.lower symbol) gecko cap ((price ⟨web.fetch, coinGecko, coinCap⟩ params).run made).2 := by
  obtain ⟨gecko, cap, hasks⟩ := exists_asksPrice hgecko hcap (Text.lower symbol)
  have hgeckoUrl : geckoUrl? ⟨web.fetch, coinGecko, coinCap⟩ (Text.lower symbol) = some gecko := by
    obtain ⟨url, hurl, hform⟩ := hasks.gecko
    show (Url.read web.toAscii (coinGecko ++ "/simple/price")).map _ = some gecko
    rw [hurl, hform]
    rfl
  have hrun : (geckoPrice ⟨web.fetch, coinGecko, coinCap⟩ (Text.lower symbol)).run made = _ := geckoPrice_run hgeckoUrl
  refine ⟨gecko, cap, hasks, fun htold => ?_, fun hnot => ?_⟩
  · obtain ⟨price, hprice⟩ := Option.isSome_iff_exists.mp (isSome_priceTold?_iff.mpr htold)
    rw [hprice] at hrun
    rw [price_run_named hsymbol, priceOf_run_told hrun]
  · have hnone : priceTold? (web.answer made (request gecko)) (Text.lower symbol) = none := by
      rwa [← isSome_priceTold?_iff, Option.not_isSome_iff_eq_none] at hnot
    rw [hnone] at hrun
    rw [price_run_named hsymbol, priceOf_run_untold hrun (capPrice_run hasks.cap), List.append_assoc]
    rfl

end PriceService

/-! ### All tools -/

open WeatherService PriceService

/-- Whatever the parameters and whatever the web, a built-in tool ends with a text, fails, or refuses its parameters
without a request; no turn ends of it. The requests are those that the services' addresses and their replies call for. -/
theorem builtin_contained (web : Web) (nws coinGecko coinCap : String) (params : Json) (made : List Request) :
    (Contained (∃ a b, NamesState params a b) made ((alerts ⟨web.fetch, nws⟩ params).run made) ∧
      Contained (NamesPlace params) made ((forecast ⟨web.fetch, nws⟩ params).run made) ∧
      Contained (∃ symbol, NamesSymbol params symbol) made ((price ⟨web.fetch, coinGecko, coinCap⟩ params).run made)) ∧
    (∀ tool ∈ builtinTools ⟨web.fetch, nws⟩ ⟨web.fetch, coinGecko, coinCap⟩, ∀ before,
      Conversation.firstFatal before ((tool.action params).run made).1.outcome = before) ∧
    (IsBase web.toAscii (withoutSlashes nws) →
      (∀ a b, NamesState params a b → ∃ url, AsksAlerts web.toAscii nws a b url ∧
        ((alerts ⟨web.fetch, nws⟩ params).run made).2 = made ++ [WeatherService.request url]) ∧
      (NamesPlace params → ∃ place, AsksPlace web.toAscii nws params place ∧
        AsksForecast web made place ((forecast ⟨web.fetch, nws⟩ params).run made))) ∧
    (IsBase web.toAscii coinGecko → IsBase web.toAscii coinCap → ∀ symbol, NamesSymbol params symbol →
      ∃ gecko cap, AsksPrice web.toAscii coinGecko coinCap (Text.lower symbol) gecko cap ∧
        AsksServices web made (Text.lower symbol) gecko cap
          ((price ⟨web.fetch, coinGecko, coinCap⟩ params).run made).2) := by
  have halerts := alerts_contained web nws params made
  have hforecast := forecast_contained web nws params made
  have hprice := price_contained web coinGecko coinCap params made
  refine ⟨⟨halerts, hforecast, hprice⟩, fun tool htool before => ?_,
    fun hnws => ⟨fun a b hstate => ?_, fun hplace => ?_⟩,
    fun hgecko hcap symbol hsymbol => price_requests web hgecko hcap made hsymbol⟩
  · simp only [builtinTools, List.mem_cons, List.not_mem_nil, or_false] at htool
    obtain rfl | rfl | rfl := htool
    · exact hforecast.firstFatal_eq before
    · exact halerts.firstFatal_eq before
    · exact hprice.firstFatal_eq before
  · exact alerts_requests web hnws made hstate
  · exact forecast_requests web hnws made hplace

/-- A document that names the address of a forecast and tells a price. -/
def sampleDocument : Json :=
  .obj [("bitcoin", .obj [("usd", .num (.int 64000))]),
    ("properties", .obj [("forecast", "https://bücher.example/forecast")])]

theorem portable_sampleDocument : sampleDocument.Portable := by
  have hnumbers : sampleDocument.numbers = [.int 64000] := rfl
  refine ⟨by decide, fun n hn => ?_, fun x hx => ?_⟩
  · rw [hnumbers, List.mem_singleton] at hn
    cases hn
    rfl
  · rw [hnumbers, List.mem_singleton] at hx
    cases hx

/-- A web that knows one host in another script. The first request brings the sample document, and no other gets out. -/
def sampleWeb : Web where
  toAscii bytes := if bytes = bytesOf "bücher.example".toList then some "xn--bcher-kva.example".toList else none
  answer made _ := if made = [] then .ok ⟨200, Text.utf8Bytes sampleDocument.compact⟩ else .error .dropped

theorem builtin_contained_sample :
    let weather : WeatherService (StateM (List Request)) := { fetch := sampleWeb.fetch }
    let prices : PriceService (StateM (List Request)) := { fetch := sampleWeb.fetch }
    let params : Json := .obj [("latitude", .num (.int 38)), ("longitude", .num (.int (-122))), ("state", "ca"),
      ("symbol", " Bitcoin ")]
    (∃ url, ['C', 'A'] <:+ url.text.toList ∧ ((weather.alerts params).run []).2 = [WeatherService.request url]) ∧
    (∃ place next, Url.read sampleWeb.toAscii "https://bücher.example/forecast" = some next ∧
      next.host = "xn--bcher-kva.example" ∧
      ((weather.forecast params).run []).2 = [WeatherService.request place, WeatherService.request next]) ∧
    ∃ gecko, ((prices.price params).run []).2 = [PriceService.request gecko] := by
  intro weather prices params
  have hfirst (r : Request) : ∃ reply, sampleWeb.answer [] r = .ok reply ∧ reply.status = 200 ∧
      reply.json? = some sampleDocument := by
    refine ⟨⟨200, Text.utf8Bytes sampleDocument.compact⟩, rfl, rfl, ?_⟩
    rw [Reply.json?, Text.utf8Text_utf8Bytes]
    dsimp only
    rw [Json.read_compact portable_sampleDocument]
    rfl
  obtain ⟨-, -, hweather, hprice⟩ := builtin_contained sampleWeb weather.base prices.coinGecko prices.coinCap params []
  obtain ⟨halerts, hforecast⟩ := hweather (WeatherService.isBase_usual sampleWeb.fetch)
  obtain ⟨hgecko, hcap⟩ := PriceService.isBase_usual sampleWeb.fetch
  obtain ⟨url, hasks, hurl⟩ := halerts 'c' 'a' ⟨rfl, rfl, rfl⟩
  obtain ⟨place, -, hplace⟩ := hforecast
    ⟨⟨.int 38, 38, rfl, rfl, by norm_num⟩, ⟨.int (-122), 122, rfl, rfl, by norm_num⟩⟩
  obtain ⟨gecko, cap, -, hservices⟩ := hprice hgecko hcap "Bitcoin"
    ⟨" Bitcoin ", rfl, by rw [Text.isAllBlank, String.all_bool_eq]; rfl, by decide +kernel⟩
  refine ⟨⟨url, hasks.code, hurl⟩,
    ⟨place, ⟨"https", "xn--bcher-kva.example", none, ["forecast"], none, none, none⟩, by decide +kernel, rfl, ?_⟩, gecko, ?_⟩
  · obtain ⟨reply, hreply, hstatus, hdocument⟩ := hfirst (WeatherService.request place)
    exact (hplace.named _ ⟨_, ⟨reply, hreply, by omega, hdocument⟩, rfl⟩).1
  · obtain ⟨reply, hreply, hstatus, hdocument⟩ := hfirst (PriceService.request gecko)
    exact hservices.told ⟨reply, sampleDocument, .int 64000, hreply, by omega, hdocument, rfl⟩

end Colloquy
