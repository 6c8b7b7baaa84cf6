import CareerProjects.Library.Keyed
import CareerProjects.Library.Lines
import CareerProjects.Library.UrlPaths
import Mathlib.Data.List.DropRight

/-! The gateway of the warehouse services: its routes for the public resources, the client that
forwards their requests, and what the HTTP library makes of the URL it is given. -/

namespace CareerProjects.Gateway

open Library Library.UrlPath

structure Request where
  method : String
  /-- The path as it stands on the wire. -/
  rawPath : List Char
  queryParams : List (String × String)
  headers : List (String × String)
  body : List UInt8

structure Sent where
  scheme : List Char
  authority : List Char
  method : String
  rawPath : List Char
  queryParams : List (String × String)
  headers : List (String × String)
  content : Option (List UInt8)

structure DownstreamResponse where
  statusCode : ℕ
  /-- The values of the headers that are there, by their names. -/
  headers : String → Option String
  content : List UInt8

structure Response where
  statusCode : ℕ
  headers : List (String × String)
  content : List UInt8

def control (c : Char) : Bool := c.toNat < 32 || c.toNat = 127

/-- The URL of an internal service: a scheme and an authority, perhaps with slashes after them. -/
structure ServiceUrl where
  scheme : List Char
  authority : List Char
  slashes : ℕ
  schemePlain : ':' ∉ scheme
  authoritySome : authority ≠ []
  authorityPlain : ∀ c ∈ authority, c ≠ '/' ∧ delimiter c = false
  printable : ∀ c ∈ scheme ++ authority, control c = false

def ServiceUrl.text (url : ServiceUrl) : List Char :=
  url.scheme ++ ("://".toList ++ (url.authority ++ List.replicate url.slashes '/'))

structure Settings where
  inventoryServiceUrl : ServiceUrl
  warehouseServiceUrl : ServiceUrl
  orderServiceUrl : ServiceUrl

inductive ServiceKey where
  | inventory
  | warehouse
  | order
  deriving DecidableEq

structure DownstreamService where
  name : String
  baseUrl : List Char

def DownstreamService.new (name : String) (baseUrl : List Char) : DownstreamService :=
  ⟨name, baseUrl.rdropWhile (· = '/')⟩

def Settings.url (settings : Settings) : ServiceKey → ServiceUrl
  | .inventory => settings.inventoryServiceUrl
  | .warehouse => settings.warehouseServiceUrl
  | .order => settings.orderServiceUrl

def services (settings : Settings) : ServiceKey → DownstreamService
  | .inventory => .new "inventory-service" (settings.url .inventory).text
  | .warehouse => .new "warehouse-service" (settings.url .warehouse).text
  | .order => .new "order-service" (settings.url .order).text

inductive TransportError where
  | timeout
  | request

/-- The client library: the characters it does not escape in a path, and the service's answers. -/
structure HttpClient where
  safe : Char → Bool
  transport : Sent → Except TransportError DownstreamResponse

/-- Scheme, authority and path of a URL; a query or a fragment is not looked at, as the parameters given
with the URL take its place. -/
def splitUrl (url : List Char) : List Char × List Char × List Char :=
  match cut "://".toList url with
  | some parts =>
    let inside := fun c => c ≠ '/' && !delimiter c
    (parts.1, parts.2.takeWhile inside, untilDelimiter (parts.2.dropWhile inside))
  | none => ([], [], untilDelimiter url)

def quotePlus (text : String) : List Char :=
  text.toList.flatMap fun c =>
    if c = ' ' then ['+']
    else if c.isAlphanum || c ∈ ['_', '.', '-', '~'] then [c]
    else (String.utf8EncodeChar c).flatMap escape

def urlencode (params : List (String × String)) : List Char :=
  ['&'].intercalate (params.map fun param => quotePlus param.1 ++ '=' :: quotePlus param.2)

def MAX_URL_LENGTH : ℕ := 65536

inductive InvalidURL where
  | tooLong
  | nonPrintable

/-- The request for a URL: dot segments are removed, what is unsafe is escaped, and the parameters
of one name come together. The URL with its parameters is put together from its parts again. -/
def HttpClient.buildRequest (client : HttpClient) (method : String) (url : List Char)
    (params headers : List (String × String)) (content : Option (List UInt8)) : Except InvalidURL Sent :=
  if MAX_URL_LENGTH < url.length then .error .tooLong
  else if url.any control then .error .nonPrintable
  else
    let parts := splitUrl url
    let rawPath := quote client.safe (removeDots parts.2.2)
    let queryParams := grouped Prod.fst params
    if MAX_URL_LENGTH < rawPath.length ∨ MAX_URL_LENGTH < (urlencode queryParams).length then .error .tooLong
    else .ok {
      scheme := parts.1
      authority := parts.2.1
      method := method
      rawPath := rawPath
      queryParams := queryParams
      headers := headers
      content := content }

def dict (pairs : List (String × String)) : List (String × String) :=
  pairs.foldl (fun known pair =>
    if pair.1 ∈ known.map Prod.fst then known.map fun old => if old.1 = pair.1 then pair else old
    else known ++ [pair]) []

def HOP_BY_HOP_HEADERS : List String :=
  ["connection", "content-length", "host", "keep-alive", "proxy-authenticate", "proxy-authorization",
    "te", "trailer", "transfer-encoding", "upgrade"]

def forwardedHeaders (headers : List (String × String)) : List (String × String) :=
  dict (headers.filter fun header => header.1.toLower ∉ HOP_BY_HOP_HEADERS)

structure HTTPException where
  statusCode : ℕ
  message : String
  service : String

/-- What a handler raises: a URL that the library refuses is not caught. -/
inductive Raised where
  | http (exception : HTTPException)
  | invalidUrl (exception : InvalidURL)

def targetUrl (service : DownstreamService) (downstreamPath : List Char) : List Char :=
  service.baseUrl ++ '/' :: downstreamPath.dropWhile (· = '/')

def responseHeaders (headers : String → Option String) : List (String × String) :=
  ["content-type", "location", "x-request-id"].filterMap fun name => (headers name).map fun value => (name, value)

def forward (client : HttpClient) (settings : Settings) (request : Request) (serviceKey : ServiceKey)
    (downstreamPath : List Char) : List Sent × Except Raised Response :=
  let service := services settings serviceKey
  let content := if request.body = [] then none else some request.body
  match client.buildRequest request.method (targetUrl service downstreamPath) request.queryParams
      (forwardedHeaders request.headers) content with
  | .error invalid => ([], .error (.invalidUrl invalid))
  | .ok sent =>
    ([sent],
      match client.transport sent with
      | .error .timeout => .error (.http ⟨504, "The downstream service timed out", service.name⟩)
      | .error .request => .error (.http ⟨503, "The downstream service is unavailable", service.name⟩)
      | .ok response => .ok ⟨response.statusCode, responseHeaders response.headers, response.content⟩)

def PROXY_METHODS : List String := ["GET", "POST", "PUT", "PATCH", "DELETE", "OPTIONS", "HEAD"]

def buildDownstreamPath (rootPath remainingPath : List Char) : List Char :=
  if remainingPath = [] then rootPath else rootPath ++ '/' :: remainingPath

inductive Resource where
  | products
  | stock
  | warehouses
  | orders
  deriving DecidableEq

def Resource.root : Resource → List Char
  | .products => "/products".toList
  | .stock => "/stock".toList
  | .warehouses => "/warehouses".toList
  | .orders => "/orders".toList

def Resource.owner : Resource → ServiceKey
  | .products => .inventory
  | .stock => .inventory
  | .warehouses => .warehouse
  | .orders => .order

def proxyProducts (client : HttpClient) (settings : Settings) (request : Request) (remainingPath : List Char) :
    List Sent × Except Raised Response :=
  forward client settings request .inventory (buildDownstreamPath "/products".toList remainingPath)

def proxyStock (client : HttpClient) (settings : Settings) (request : Request) (remainingPath : List Char) :
    List Sent × Except Raised Response :=
  forward client settings request .inventory (buildDownstreamPath "/stock".toList remainingPath)

def proxyWarehouses (client : HttpClient) (settings : Settings) (request : Request) (remainingPath : List Char) :
    List Sent × Except Raised Response :=
  forward client settings request .warehouse (buildDownstreamPath "/warehouses".toList remainingPath)

def proxyOrders (client : HttpClient) (settings : Settings) (request : Request) (remainingPath : List Char) :
    List Sent × Except Raised Response :=
  forward client settings request .order (buildDownstreamPath "/orders".toList remainingPath)

def Resource.proxy : Resource → HttpClient → Settings → Request → List Char →
    List Sent × Except Raised Response
  | .products => proxyProducts
  | .stock => proxyStock
  | .warehouses => proxyWarehouses
  | .orders => proxyOrders

/-- The end of a route's pattern, also before a newline that is the last character. -/
def atEnd (text : List Char) : Bool := text = [] || text = ['\n']

def pathConvertor (text : List Char) : Option (List Char) :=
  if atEnd (text.dropWhile (· ≠ '\n')) then some (text.takeWhile (· ≠ '\n')) else none

/-- The remaining path, for a path that one of the two routes of a resource takes. -/
def Resource.remaining (resource : Resource) (path : List Char) : Option (List Char) :=
  if path = resource.root ∨ path = resource.root ++ ['\n'] then some []
  else if (resource.root ++ ['/']).isPrefixOf path then pathConvertor (path.drop (resource.root.length + 1))
  else none

def route (path : List Char) : Option (Resource × List Char) :=
  [Resource.products, .stock, .warehouses, .orders].findSome? fun resource =>
    (resource.remaining path).map fun remainingPath => (resource, remainingPath)

/-- A path that no route takes is answered with 404, or redirected where another one with a slash more or
less is taken. -/
inductive Reply where
  | unrouted
  | methodNotAllowed
  | answered (response : Except HTTPException Response)
  | internalServerError (exception : InvalidURL)

def reply : Except Raised Response → Reply
  | .ok response => .answered (.ok response)
  | .error (.http exception) => .answered (.error exception)
  | .error (.invalidUrl exception) => .internalServerError exception

def handle (client : HttpClient) (settings : Settings) (request : Request) : List Sent × Reply :=
  match route (unquote request.rawPath) with
  | none => ([], .unrouted)
  | some (resource, remainingPath) =>
    if request.method ∈ PROXY_METHODS then
      let forwarded := resource.proxy client settings request remainingPath
      (forwarded.1, reply forwarded.2)
    else ([], .methodNotAllowed)

end CareerProjects.Gateway
