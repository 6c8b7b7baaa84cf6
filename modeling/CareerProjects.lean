import CareerProjects.JobQueue.Fencing
import CareerProjects.Warehouse.Integrity
import CareerProjects.Warehouse.Compensation
import CareerProjects.Warehouse.OrderConfirmation
import CareerProjects.Library.Numerals
import CareerProjects.Library.Dates
import CareerProjects.Library.Instant
import CareerProjects.Library.Binary64
import CareerProjects.Library.Json
import CareerProjects.CommandControl.Authentication
import CareerProjects.CommandControl.Server
import CareerProjects.Library.Throwing
import CareerProjects.CommandControl.ParserMessages
import CareerProjects.CommandControl.Verdicts
import CareerProjects.CommandControl.Executions
import CareerProjects.CommandControl.Acknowledgements
import CareerProjects.CommandControl.Signatures
import CareerProjects.Library.Python
import CareerProjects.Library.Serializers
import CareerProjects.CommandControl.ControlStation
import CareerProjects.CommandControl.Payloads
import CareerProjects.CommandControl.Connections
import CareerProjects.CommandControl.Delivery
import CareerProjects.JobQueue.Recovery
import CareerProjects.JobQueue.Submissions
import CareerProjects.JobQueue.Locking
import CareerProjects.JobQueue.Claims
import CareerProjects.Library.Unlocked
import CareerProjects.Observability.IncidentLifecycle
import CareerProjects.CloudOperations.Model
import CareerProjects.CloudOperations.AuditTrail
import CareerProjects.CloudOperations.LastAdministrator
import CareerProjects.Observability.Ingestion
import CareerProjects.Library.Doubles
import CareerProjects.Library.Inserting
import CareerProjects.Observability.RootCause
import CareerProjects.Observability.Correlations
import CareerProjects.Observability.Traces
import CareerProjects.SensorMonitor.Model
import CareerProjects.SensorMonitor.Server
import CareerProjects.SensorMonitor.Timeouts
import CareerProjects.SensorMonitor.Transitions
import CareerProjects.Library.Lines
import CareerProjects.SensorMonitor.EventLog
import CareerProjects.Library.UrlPaths
import CareerProjects.Gateway.Proxy
import CareerProjects.Gateway.Forwarding
import CareerProjects.Library.Decimals
import CareerProjects.Warehouse.OrderAmounts
import CareerProjects.CloudOperations.Search
import CareerProjects.SensorMonitor.Framing
import CareerProjects.Library.Windows
import CareerProjects.Observability.RateLimit
import CareerProjects.SensorMonitor.Parsing
import CareerProjects.SensorPlatform.Model
import CareerProjects.SensorPlatform.Repository
import CareerProjects.Library.Buckets
import CareerProjects.SensorPlatform.HardwareTesting
import CareerProjects.Warehouse.WarehouseCodes
import CareerProjects.Library.Paging
import CareerProjects.Warehouse.Histories
import CareerProjects.Warehouse.StockCalls
import CareerProjects.Warehouse.Deadlocks
import CareerProjects.Library.Documents
import CareerProjects.Library.PythonNumbers
import CareerProjects.JobQueue.Payloads
import CareerProjects.Warehouse.Products
import CareerProjects.Warehouse.Services
import CareerProjects.Warehouse.Cancellability
import CareerProjects.Library.Statistics
import CareerProjects.Observability.MetricDashboard
import CareerProjects.Observability.MetricSummaries
import CareerProjects.JobQueue.Backoff
import CareerProjects.JobQueue.Counters
import CareerProjects.JobQueue.Execution
import CareerProjects.JobQueue.Handlers
import CareerProjects.JobQueue.Leases
import CareerProjects.JobQueue.WorkerFleet
import CareerProjects.Library.Sampling
import CareerProjects.SensorPlatform.Api
import CareerProjects.Library.Csv
import CareerProjects.SensorMonitor.Health
import CareerProjects.SensorMonitor.Monitored
import CareerProjects.SensorPlatform.Reporting
