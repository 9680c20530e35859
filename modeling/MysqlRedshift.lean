import MysqlRedshift.Misc.Machine
import MysqlRedshift.Proxy.RouterScope
import MysqlRedshift.Proxy.Transparency
import MysqlRedshift.Proxy.Provenance
import MysqlRedshift.Proxy.PassThrough
import MysqlRedshift.Proxy.Sequential
import MysqlRedshift.Proxy.CacheWrites
import MysqlRedshift.Proxy.Noop
import MysqlRedshift.Agent.KnowledgeRuns
import MysqlRedshift.Agent.ImportEffects
import MysqlRedshift.Agent.CompareProps
import MysqlRedshift.Agent.Answers
import MysqlRedshift.Agent.BareStatement
import MysqlRedshift.Agent.Isolation
import MysqlRedshift.Agent.Labels
import MysqlRedshift.Proxy.Shapes
import MysqlRedshift.Proxy.SpellingKeys
import MysqlRedshift.Proxy.Startup
import MysqlRedshift.Proxy.WireText
import MysqlRedshift.Agent.SaveRequest
import MysqlRedshift.Agent.Recall
import MysqlRedshift.Agent.NearDuplicates
import MysqlRedshift.Agent.Entries
import MysqlRedshift.Agent.Pages
import MysqlRedshift.Webui.SplitSqls
import MysqlRedshift.Webui.ImportResults
import MysqlRedshift.Webui.Console
import MysqlRedshift.Scripts.Migrate
import MysqlRedshift.Scripts.CsvHandover
import MysqlRedshift.Scripts.TsvHandover
import MysqlRedshift.Scripts.SeedKnowledge
import MysqlRedshift.Agent.TableSchema
import MysqlRedshift.Proxy.SaveQueue
import MysqlRedshift.Proxy.Progress
import MysqlRedshift.Proxy.ConnectionProgress
import MysqlRedshift.Proxy.ConnectionResults
import MysqlRedshift.Agent.Learned
import MysqlRedshift.Agent.TranslateRequest
import MysqlRedshift.Pipeline.Rows
import MysqlRedshift.Proxy.WorkingSet
