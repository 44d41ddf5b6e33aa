import TankBattle.NewGame
import TankBattle.EndScreen
import TankBattle.PlayerLives
import TankBattle.Overlap
import TankBattle.Quit
import TankBattle.OnePlayer
import TankBattle.Twins
import TankBattle.BulletStops
import TankBattle.Flights
import TankBattle.Sprites
import TankBattle.EndPicture
import TankBattle.OnePixel
import TankBattle.Arrest
import TankBattle.Tunnels
import TankBattle.EnemyWalls
import TankBattle.Chase
import TankBattle.Attack
import TankBattle.Blocked
import TankBattle.Drive
import TankBattle.Launch
import TankBattle.ShotEnds
import TankBattle.Muzzles
import TankBattle.VgaController
import TankBattle.Hpi
import TankBattle.EnemyMenu
import TankBattle.HiddenPixels
import TankBattle.BusCycles
import TankBattle.Dialog
import TankBattle.TdList
import TankBattle.Usb
import TankBattle.UsbMain
import TankBattle.UsbText
import TankBattle.UsbPace
import TankBattle.I2c
import TankBattle.AudioInit
import TankBattle.Serial
import TankBattle.AudioData
import TankBattle.Board
import TankBattle.FramePace
import TankBattle.Hearts
import TankBattle.HostPins
import TankBattle.Keyboard
import TankBattle.FireRate
import TankBattle.Picture
