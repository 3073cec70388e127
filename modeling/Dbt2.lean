import Dbt2.Lib.Congruential
import Dbt2.Lib.Draws
import Dbt2.Pcg
import Dbt2.Common
import Dbt2.Schema
import Dbt2.Consistency
import Dbt2.Datagen
import Dbt2.Partition
import Dbt2.Population
import Dbt2.Lib.Transition
import Dbt2.ProcessTransaction
import Dbt2.AtMostOnce
import Dbt2.HandleDiscipline
import Dbt2.Client
import Dbt2.Ownership
import Dbt2.Routing
import Dbt2.Lib.Fallible
import Dbt2.Lib.Numbered
import Dbt2.Lib.Table
import Dbt2.Statements
import Dbt2.Transactions
import Dbt2.Backends
import Dbt2.Effects
import Dbt2.Sqlite
import Dbt2.OrderIds
import Dbt2.Money
import Dbt2.StockAccounting
import Dbt2.DeliveryState
import Dbt2.Plpgsql
import Dbt2.NewOrderAgreement
import Dbt2.StockLevel
import Dbt2.Lib.Locking
import Dbt2.Rows
import Dbt2.Oracle
import Dbt2.OrderRows
import Dbt2.OracleNewOrder
import Dbt2.OracleRetry
import Dbt2.MySql
import Dbt2.Procedures
import Dbt2.NewOrderProtocol
import Dbt2.ConcurrentIds
import Dbt2.ConcurrentStock
import Dbt2.DeliveryProtocol
import Dbt2.ConcurrentDelivery
import Dbt2.PgClients
import Dbt2.LostConnections
import Dbt2.Lib.Stepping
import Dbt2.Terminals
import Dbt2.EventLoop
import Dbt2.Forks
import Dbt2.Startup
import Dbt2.CreatedTerminals
import Dbt2.Spread
import Dbt2.MixLog
import Dbt2.Indexing
import Dbt2.TransactionQueue
import Dbt2.NewOrderOutput
import Dbt2.MySqlCalls
import Dbt2.ResultLaw
import Dbt2.Client2
import Dbt2.NonspClient
import Dbt2.NonspErrors
import Dbt2.TransactionMix
import Dbt2.Lib.Insertions
import Dbt2.OrderCustomers
import Dbt2.RecordTransfer
import Dbt2.TransferCallers
import Dbt2.CustomerByName
import Dbt2.SqliteCursor
import Dbt2.Lib.Source
import Dbt2.Drawn
import Dbt2.InputData
import Dbt2.CustomerSelectors
import Dbt2.Lib.CopyText
import Dbt2.Lib.Decimal
import Dbt2.DataFiles
import Dbt2.Columns
import Dbt2.Loading
import Dbt2.Lib.Threads
import Dbt2.TransactionCounters
import Dbt2.AcceptedSockets
import Dbt2.TerminalStates
import Dbt2.OdbcLocks
import Dbt2.Lib.Waiting
import Dbt2.RetryLoops
import Dbt2.Lib.Getopt
import Dbt2.DatagenOptions
import Dbt2.LineContent
import Dbt2.OrderStatus
import Dbt2.Lib.Printf
import Dbt2.QueryBuffers
import Dbt2.Lib.Rounding
import Dbt2.NuRand
import Dbt2.Lib.Memory
import Dbt2.Lib.Quoting
import Dbt2.EscapeStr
import Dbt2.Lib.ByteOrder
import Dbt2.NetworkOrder
import Dbt2.Lib.Serial
import Dbt2.PaymentStatements
import Dbt2.Serializability
import Dbt2.Transfers
import Dbt2.ConcurrentTransfers
import Dbt2.Books
import Dbt2.Lib.Deadlock
import Dbt2.LockOrder
import Dbt2.Lib.Tallies
import Dbt2.Driver3
import Dbt2.Throughput
import Dbt2.Lib.OrderStatistic
import Dbt2.MixReport
import Dbt2.Lib.Csv
import Dbt2.MixFiles
import Dbt2.Lib.Keys
import Dbt2.References
import Dbt2.PopulationKeys
import Dbt2.InputsServed
import Dbt2.StatusServed
